import BusStatus.Cli.Tool

/-!
# Texts about the tools

The lines that a tool prints when it is asked for help or for its version.
-/

namespace BusStatus.Cli.Tool

/-- The lines that explain a tool and its options. -/
def help : Tool → List String
  | .flags =>
      ["Decode a JACDAC physical-layer status word into its flag names",
       "",
       "Usage: jd-flags [OPTIONS] [VALUES]...",
       "",
       "Arguments:",
       "  [VALUES]...  The status word (decimal, or 0x/0o/0b prefixed). Exactly one is expected",
       "",
       "Options:",
       "  -L, --layout <LAYOUT>      Bit layout the status word was produced with [default: decoder]",
       "  -j, --json                 Print the result as a JSON object instead of one name per line",
       "      --list                 Print the flag table of the selected layout and exit",
       "  -l, --log-file <LOG_FILE>  Optional path to a file to write logs to, in addition to the console",
       "  -v, --verbose...           Increase logging verbosity",
       "  -q, --quiet...             Decrease logging verbosity",
       "  -h, --help                 Print help",
       "  -V, --version              Print version"]
  | .statusLog =>
      ["Replay the captured JACDAC status ring, decoding every slot oldest first",
       "",
       "Usage: jd-status-log [OPTIONS]",
       "",
       "Options:",
       "  -s, --start <START>        Ring slot to start from (the slot the firmware would write next) [default: 54]",
       "  -L, --layout <LAYOUT>      Bit layout the ring was recorded with [default: capture]",
       "  -j, --json                 Print one JSON object per slot instead of plain lines",
       "      --summary              Print per-flag occurrence counts after the replay",
       "  -l, --log-file <LOG_FILE>  Optional path to a file to write logs to, in addition to the console",
       "  -v, --verbose...           Increase logging verbosity",
       "  -q, --quiet...             Decrease logging verbosity",
       "  -h, --help                 Print help",
       "  -V, --version              Print version"]

/-- The line that tells the version, the same for both tools. -/
def version : String :=
  "jacdac-status-rs 0.1.0"

def notice (tool : Tool) : Notice → List String
  | .help => tool.help
  | .version => [version]

end BusStatus.Cli.Tool
