import PageBuild.Text.Lines

/-! The help text of the command line, for eighty columns. -/
namespace PageBuild.CommandLine

def usageLines : List String := [
  "usage: page-compiler [-h] [--config CONFIG] [--backend \x7becj,javac\x7d]",
  "                     [--executable EXECUTABLE] [--timeout TIMEOUT]",
  "                     [--line-map LINE_MAP] [--json] [--verbose]",
  "                     [--scratch-dir SCRATCH_DIR] [--classpath CLASSPATH]",
  "                     [--encoding ENCODING] [--source SOURCE_VM]",
  "                     [--target TARGET_VM] [--no-debug] [--delete-generated]",
  "                     [--prototype] [--suppress-smap]",
  "                     [source_file]"]

def helpLines : List String := [
  "",
  "Compile a generated page source and report page-level errors",
  "",
  "positional arguments:",
  "  source_file           Generated source file to compile",
  "",
  "options:",
  "  -h, --help            show this help message and exit",
  "  --config CONFIG       JSON file holding the compilation context",
  "  --backend \x7becj,javac\x7d",
  "                        Compiler backend to use",
  "  --executable EXECUTABLE",
  "                        Path to the compiler executable",
  "  --timeout TIMEOUT     Abort the compiler after this many seconds",
  "  --line-map LINE_MAP   JSON file with line maps per generated file",
  "  --json                Print the outcome as JSON",
  "  --verbose, -v         Enable debug logging",
  "",
  "Context options:",
  "  --scratch-dir SCRATCH_DIR",
  "                        Directory receiving compiled classes",
  "  --classpath CLASSPATH",
  "                        Classpath, separated by the platform separator",
  "  --encoding ENCODING   Encoding of the generated source",
  "  --source SOURCE_VM    Source level",
  "  --target TARGET_VM    Target level",
  "  --no-debug            Compile without debug information",
  "  --delete-generated    Delete the generated source after compiling",
  "  --prototype           Check only, skip SMAP installation",
  "  --suppress-smap       Do not install SMAPs",
  "",
  "Examples:",
  "  # Compile a generated servlet into ./classes",
  "  python -m page_compiler index_jsp.java --scratch-dir ./classes --classpath lib/servlet-api.jar",
  "",
  "  # Map errors back to the page using the generator's line maps",
  "  python -m page_compiler index_jsp.java --scratch-dir ./classes --line-map smaps.json --json",
  "",
  "  # Load every setting from a context file",
  "  python -m page_compiler --config context.json"]

def usage : String := Text.join "\n" usageLines ++ "\n"

def help : String := Text.join "\n" (usageLines ++ helpLines) ++ "\n"

end PageBuild.CommandLine
