import StagedMocks.Toml.Quoted

/-!
Writing strings in TOML, in the plainest form that needs no escapes where there
is one.
-/
namespace StagedMocks.Toml

/-- Characters that only an escape can write: controls other than tab and line feed. -/
def needsEscape (c : Char) : Bool :=
  isControl c && c != '\n'

/-- The greatest number of times a character stands in a row; `run` of them stand before the
text. -/
def longestRun (quote : Char) (run : Nat) : Text → Nat
  | [] => run
  | c :: s => if c = quote then longestRun quote (run + 1) s else max run (longestRun quote 0 s)

def Form.forText (s : Text) : Form :=
  let oneLine := !s.contains '\n'
  let noEscapes := !s.any needsEscape
  let noBackslash := !s.contains '\\'
  if noEscapes && noBackslash && oneLine && !s.contains '"' then .basic
  else if noEscapes && oneLine && !s.contains '\'' then .literal
  else if noEscapes && noBackslash && longestRun '"' 0 s ≤ 2 then .longBasic
  else if noEscapes && longestRun '\'' 0 s ≤ 2 then .longLiteral
  else if oneLine then .basic
  else .longBasic

def hexDigit (n : Nat) : Char :=
  if n < 10 then Char.ofNat ('0'.toNat + n) else Char.ofNat ('A'.toNat + (n - 10))

def escapeOf? (isLong : Bool) (c : Char) : Option Text :=
  if c = '\x08' then some ['\\', 'b']
  else if c = '\t' then some ['\\', 't']
  else if c = '\x0c' then some ['\\', 'f']
  else if c = '\r' then some ['\\', 'r']
  else if c = '\\' then some ['\\', '\\']
  else if c = '\n' then (if isLong then none else some ['\\', 'n'])
  else if isControl c then
    some ['\\', 'u', '0', '0', hexDigit (c.toNat / 16), hexDigit (c.toNat % 16)]
  else none

/-- The content of a string in double quotes, behind `run` quotes that stand as they are. On one
line every quote is escaped, in a long string every third in a row. -/
def escaped (isLong : Bool) (run : Nat) : Text → Text
  | [] => []
  | c :: s =>
      if c = '"' then
        if isLong && run < 2 then '"' :: escaped isLong (run + 1) s
        else '\\' :: '"' :: escaped isLong 0 s
      else (escapeOf? isLong c).getD [c] ++ escaped isLong 0 s

def Form.write (form : Form) (s : Text) : Text :=
  match form with
  | .basic => escaped false 0 s
  | .longBasic => escaped true 0 s
  | .literal | .longLiteral => s

/-- A string as it is written. The content of a long one starts on a line of its own if it has a
line feed. -/
def written (s : Text) : Text :=
  let form := Form.forText s
  let lineFeed := if form.isLong && s.contains '\n' then ['\n'] else []
  form.delimiter ++ lineFeed ++ form.write s ++ form.delimiter

def writtenPair (key s : Text) : Text :=
  key ++ " = ".toList ++ written s ++ ['\n']

end StagedMocks.Toml
