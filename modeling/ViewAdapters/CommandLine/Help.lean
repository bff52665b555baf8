import ViewAdapters.CommandLine.Reading

/-!
# Usage and help

The texts that explain the command line, in lines of at most eighty characters.
-/

namespace ViewAdapters.CommandLine

namespace Level

def usage : Level → List String
  | .program => [
    "usage: adaptergen [-h] [-v] [--log-file LOG_FILE] \x7bgenerate,stats\x7d ..."]
  | .command .generate => [
    "usage: adaptergen generate [-h] [-v] [-p PLATFORM] [-o OUTPUT] [-c CONFIG]",
    "                           [--workers WORKERS] [--timestamp TIMESTAMP]",
    "                           [--summary-json SUMMARY_JSON] [--dry-run]",
    "                           metadata"]
  | .command .stats => [
    "usage: adaptergen stats [-h] [-v] metadata"]

/-- What follows the usage in a help text. -/
def details : Level → List String
  | .program => [
    "Generate Kotlin and Swift reactive adapters from view-model metadata.",
    "",
    "positional arguments:",
    "  \x7bgenerate,stats\x7d",
    "    generate           Generate adapters for every view-model in a metadata",
    "                       document.",
    "    stats              Report behavior attribute usage in a metadata document.",
    "",
    "options:",
    "  -h, --help           show this help message and exit",
    "  -v, --verbose        Increase log verbosity for troubleshooting.",
    "  --log-file LOG_FILE  Also write logs to this file."]
  | .command .generate => [
    "positional arguments:",
    "  metadata              Path to the view-model metadata document (YAML or",
    "                        JSON).",
    "",
    "options:",
    "  -h, --help            show this help message and exit",
    "  -v, --verbose         Increase log verbosity for troubleshooting.",
    "  -p PLATFORM, --platform PLATFORM",
    "                        Target platform: android, ios or both (repeatable;",
    "                        defaults to config or both).",
    "  -o OUTPUT, --output OUTPUT",
    "                        Output root directory (platform directories are",
    "                        created beneath it).",
    "  -c CONFIG, --config CONFIG",
    "                        Path to .adaptergen.yml or its directory (defaults to",
    "                        the current directory).",
    "  --workers WORKERS     Number of worker threads used for generation.",
    "  --timestamp TIMESTAMP",
    "                        ISO-8601 generation timestamp to embed (defaults to",
    "                        SOURCE_DATE_EPOCH or now).",
    "  --summary-json SUMMARY_JSON",
    "                        Write the run summary as JSON to this path.",
    "  --dry-run             Render adapters without writing any files."]
  | .command .stats => [
    "positional arguments:",
    "  metadata       Path to the view-model metadata document (YAML or JSON).",
    "",
    "options:",
    "  -h, --help     show this help message and exit",
    "  -v, --verbose  Increase log verbosity for troubleshooting."]

def linesText (lines : List String) : String := String.join (lines.map (· ++ "\n"))

def usageText (l : Level) : String := linesText l.usage

def helpText (l : Level) : String := linesText (l.usage ++ [""] ++ l.details)

/-- The usage and what is wrong. -/
def faultText (l : Level) (fault : Fault) : String :=
  l.usageText ++ l.name ++ ": error: " ++ fault.message ++ "\n"

end Level
end ViewAdapters.CommandLine
