import StagedMocks.Arguments.Basic

/-!
The texts that tell how the program is called.
-/
namespace StagedMocks.Arguments

/-- Lines, each with a line feed at its end. -/
def ofLines (lines : List String) : Text :=
  lines.flatMap fun line => line.toList ++ ['\n']

def versionText : Text :=
  ofLines ["mockmigrate 0.1.0"]

def shortHelp : Text := ofLines
  ["Migrate XCTest files from session.nextData/lastURL assertions to mock(...) calls",
   "",
   "Usage: mockmigrate [OPTIONS] [FILES]...",
   "",
   "Arguments:",
   "  [FILES]...  Test source files (or directories) to migrate in place",
   "",
   "Options:",
   "  -l, --log-level <LOG_LEVEL>  Set the logging level [possible values: off, error, warn, info, debug, trace]",
   "      --config <CONFIG>        Path to the configuration file",
   "      --check                  Show what would be changed without modifying any file",
   "      --multi                  Treat each FILE argument as a glob pattern",
   "      --init-config <PATH>     Write a default configuration file to the given path and exit",
   "  -h, --help                   Print help (see more with '--help')",
   "  -V, --version                Print version"]

def longHelp : Text := ofLines
  ["Migrate XCTest files from session.nextData/lastURL assertions to mock(...) calls",
   "",
   "Usage: mockmigrate [OPTIONS] [FILES]...",
   "",
   "Arguments:",
   "  [FILES]...",
   "          Test source files (or directories) to migrate in place",
   "",
   "Options:",
   "  -l, --log-level <LOG_LEVEL>",
   "          Set the logging level",
   "",
   "          Possible values:",
   "          - off:   No logging output",
   "          - error: Only error messages",
   "          - warn:  Error and warning messages",
   "          - info:  Error, warning, and info messages",
   "          - debug: Error, warning, info, and debug messages",
   "          - trace: All log messages including trace",
   "",
   "      --config <CONFIG>",
   "          Path to the configuration file",
   "",
   "      --check",
   "          Show what would be changed without modifying any file",
   "",
   "      --multi",
   "          Treat each FILE argument as a glob pattern",
   "",
   "      --init-config <PATH>",
   "          Write a default configuration file to the given path and exit",
   "",
   "  -h, --help",
   "          Print help (see a summary with '-h')",
   "",
   "  -V, --version",
   "          Print version"]

def helpText (isLong : Bool) : Text :=
  if isLong then longHelp else shortHelp

end StagedMocks.Arguments
