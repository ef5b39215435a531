import StagedMocks.Arguments.Help
import StagedMocks.Arguments.Reader
import StagedMocks.Diff.Unified
import StagedMocks.Expansion
import StagedMocks.Migration.Source
import StagedMocks.Settings.File

/-!
A run of the program, as a function of the disk, the current directory, the
environment's log specification and the command line.

The first failure ends a run. What was written and printed before it stays.
-/
namespace StagedMocks.Program

inductive Output where
  | out (text : Text)
  | err (text : Text)
  deriving DecidableEq, Repr

def standardOutput (printed : List Output) : Text :=
  printed.flatMap fun
    | .out text => text
    | .err _ => []

def errorOutput (printed : List Output) : Text :=
  printed.flatMap fun
    | .out _ => []
    | .err text => text

structure Result where
  disk : Disk
  printed : List Output
  /-- The exit status as the operating system reports it. -/
  status : Nat

def line (parts : List Text) : Text :=
  parts.flatten ++ ['\n']

def logged (filter : Log.Filter) (records : List Log.Record) : List Output :=
  (records.filter filter.shows).map fun record => .err record.text

def mainTarget : Text := "mockmigrate".toList

def eventTarget : Text := "mockmigrate::observer".toList

def eventRecords : Event → List Log.Record
  | .found name body => [⟨.debug, eventTarget, name ++ " body: ".toList ++ body⟩]
  | .legacyUse name use =>
      let none := "<none>".toList
      [⟨.debug, eventTarget, name ++ " json filename: ".toList ++ use.payload.getD none⟩,
       ⟨.debug, eventTarget, name ++ " url: ".toList ++ use.url.getD none⟩]
  | .outcome name outcome => [⟨.info, eventTarget, name ++ ": ".toList ++ outcome.label.toList⟩]

/-- What is logged about a file when it is done: how many functions had each outcome, and which had
only their signature changed. -/
def summaryRecords (file : Text) (result : MigratedSource) : List Log.Record :=
  let part (outcome : Outcome) := Text.ofNat (result.count outcome) ++ [' '] ++ outcome.label.toList
  let counts := [part .migrated, part .signatureOnly, part .alreadyMigrated]
  ⟨.info, mainTarget, file ++ ": ".toList ++ ", ".toList.intercalate counts⟩ ::
    (result.functions.filter (·.outcome = .signatureOnly)).map fun report =>
      ⟨.debug, mainTarget, file ++ ": ".toList ++ report.name ++
        " has no staged payload and URL assertion pair".toList⟩

/-- The settings for a file: from the settings file that the command line names, else from the
nearest one. -/
def settingsFor (point : Standpoint) (settingsPath : Option Text) (file : Text) :
    Settings × List Log.Record :=
  match settingsPath <|> Settings.search? point file with
  | some path => Settings.loadOrStandard point path
  | none => ({}, [])

structure MigratedFile where
  source : Text
  result : MigratedSource

/-- Migrates the text of a file. Gives what is logged, also when it fails. -/
def migrateFile (point : Standpoint) (settingsPath : Option Text) (file : Text) :
    List Log.Record × Except Fault MigratedFile :=
  let (settings, warnings) := settingsFor point settingsPath file
  match point.readText file with
  | .error cause => (warnings, .error (.fileAccess file cause))
  | .ok source =>
      match Source.migrate settings source with
      | .error .offBoundary =>
          (warnings, .error (.access (.other "offset inside a character".toList)))
      | .ok result =>
          (warnings ++ result.events.flatMap eventRecords ++ summaryRecords file result,
            .ok ⟨source, result⟩)

/-- What a part of a run leaves: the disk, what was printed, and how it ended. -/
structure Progress (α : Type) where
  disk : Disk
  printed : List Output
  ending : Except Fault α

def Progress.after {α : Type} (earlier : List Output) (progress : Progress α) : Progress α :=
  { progress with printed := earlier ++ progress.printed }

def updateFiles (filter : Log.Filter) (settingsPath : Option Text) (here : Location) :
    Disk → List Text → Progress Unit
  | disk, [] => ⟨disk, [], .ok ()⟩
  | disk, file :: rest =>
      let point := Standpoint.mk disk here
      let (records, migrated) := migrateFile point settingsPath file
      match migrated with
      | .error fault => ⟨disk, logged filter records, .error fault⟩
      | .ok migrated =>
          match point.writeText file migrated.result.text with
          | .error cause => ⟨disk, logged filter records, .error (.fileAccess file cause)⟩
          | .ok next =>
              (updateFiles filter settingsPath here next rest).after
                (logged filter records ++ [.out (line ["Updated ".toList, file])])

/-- Prints what would change in each file, and counts the files that would. -/
def checkFiles (filter : Log.Filter) (settingsPath : Option Text) (point : Standpoint)
    (namesFiles : Bool) : List Text → Progress Nat
  | [] => ⟨point.disk, [], .ok 0⟩
  | file :: rest =>
      let heading :=
        if namesFiles then [Output.out (line ["Processing file: ".toList, file])] else []
      let (records, migrated) := migrateFile point settingsPath file
      match migrated with
      | .error fault => ⟨point.disk, heading ++ logged filter records, .error fault⟩
      | .ok migrated =>
          let difference := Diff.unified file migrated.source migrated.result.text
          let shown := if difference.isEmpty then [] else [Output.out difference]
          let later := checkFiles filter settingsPath point namesFiles rest
          { later with
            printed := heading ++ logged filter records ++ shown ++ later.printed
            ending := later.ending.map (· + shown.length) }

def initialise (here : Location) : Disk → List Text → Progress Unit
  | disk, [] => ⟨disk, [], .ok ()⟩
  | disk, path :: rest =>
      match Settings.save {} ⟨disk, here⟩ path with
      | .error fault => ⟨disk, [], .error fault⟩
      | .ok next =>
          (initialise here next rest).after
            [.out (line ["Created default configuration file: ".toList, path])]

/-- Updates the files for which the arguments stand. All arguments are looked at first. -/
def update (filter : Log.Filter) (point : Standpoint) (arguments : Arguments) : Progress Unit :=
  match Expansion.allFiles point arguments.arePatterns arguments.filenames with
  | .error fault => ⟨point.disk, [], .error fault⟩
  | .ok files => updateFiles filter arguments.settingsPath point.here point.disk files

/-- Checks the files for which the arguments stand. Several files are announced by name. -/
def check (filter : Log.Filter) (point : Standpoint) (arguments : Arguments) : Progress Nat :=
  match Expansion.allFiles point arguments.arePatterns arguments.filenames with
  | .error fault => ⟨point.disk, [], .error fault⟩
  | .ok files => checkFiles filter arguments.settingsPath point (1 < files.length) files

/-- The exit status for a number of changed files. It is kept in 32 bits with a sign, and the system
reports its last eight. -/
def countStatus (count : Nat) : Nat :=
  min count 0x7fffffff % 256

/-- The result of a run from its progress: a failure is printed, and its status is one. -/
def Progress.result {α : Type} (status : α → Nat) (progress : Progress α) : Result :=
  match progress.ending with
  | .ok value => ⟨progress.disk, progress.printed, status value⟩
  | .error fault => ⟨progress.disk, progress.printed ++ [.err (line [fault.message])], 1⟩

def execute (filter : Log.Filter) (point : Standpoint) (arguments : Arguments) : Result :=
  match arguments.command with
  | .update => (update filter point arguments).result fun _ => 0
  | .check => (check filter point arguments).result countStatus
  | .initialise => (initialise point.here point.disk arguments.filenames).result fun _ => 0

def run (point : Standpoint) (logSpecification : Option Text) (commandLine : List Text) : Result :=
  match Arguments.read commandLine with
  | .error refusal =>
      let fault := Fault.arguments (refusal.message (Arguments.program commandLine))
      ⟨point.disk, [.err (line [fault.message])], 1⟩
  | .ok (.help isLong) => ⟨point.disk, [.out (Arguments.helpText isLong)], 0⟩
  | .ok .version => ⟨point.disk, [.out Arguments.versionText], 0⟩
  | .ok (.run arguments) =>
      let (filter, remarks) := Log.Filter.ofRun logSpecification arguments.verbosity
      let warned := remarks.map fun remark =>
        Output.err (line ["warning: ".toList, remark, ", ignoring it".toList])
      let result := execute filter point arguments
      { result with printed := warned ++ result.printed }

end StagedMocks.Program
