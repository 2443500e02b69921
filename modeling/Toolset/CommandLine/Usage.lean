import Toolset.CommandLine

/-!
# Help and usage

What the program prints instead of running: its help on request, and a short
usage with a message when the command line is refused.
-/

namespace Toolset.CommandLine

def Level.name : Level → String
  | .program => "toolprov"
  | .command => "toolprov provision"

def Level.usage : Level → String
  | .program => "usage: toolprov [-h] \x7bprovision\x7d ...\n"
  | .command =>
      "usage: toolprov provision [-h] [--source-url SOURCE_URL] [--revision REVISION]\n" ++
      "                          [--clone-name CLONE_NAME] [--sub-tool PATH]\n" ++
      "                          [--workspace-root WORKSPACE_ROOT]\n" ++
      "                          [--installer INSTALLER] [--git GIT_PATH]\n" ++
      "                          [--timeout STEP_TIMEOUT_SECONDS]\n" ++
      "                          [--metrics-gateway METRICS_GATEWAY_URL]\n" ++
      "                          [--log-level \x7bDEBUG,INFO,WARNING,ERROR\x7d]\n" ++
      "                          [--json-logs]\n"

/-- What the help of a level adds to its usage. -/
def Level.explanation : Level → String
  | .program =>
      "\nFetch a toolset repository and install its sub-tools\n" ++
      "\npositional arguments:\n" ++
      "  \x7bprovision\x7d\n" ++
      "    provision  Fetch the source, install each sub-tool, remove the workspace\n" ++
      "\noptions:\n" ++
      "  -h, --help   show this help message and exit\n"
  | .command =>
      "\noptions:\n" ++
      "  -h, --help            show this help message and exit\n" ++
      "  --source-url SOURCE_URL\n" ++
      "                        Git URL of the toolset repository\n" ++
      "  --revision REVISION   Commit, tag or branch to pin the fetch to\n" ++
      "  --clone-name CLONE_NAME\n" ++
      "                        Directory name for the clone\n" ++
      "  --sub-tool PATH       Sub-tool path inside the clone (repeatable, installed\n" ++
      "                        in order)\n" ++
      "  --workspace-root WORKSPACE_ROOT\n" ++
      "                        Directory that holds the clone\n" ++
      "  --installer INSTALLER\n" ++
      "                        Installer command; the sub-tool path is appended\n" ++
      "                        (default: \"cargo install --force --path\")\n" ++
      "  --git GIT_PATH        git executable\n" ++
      "  --timeout STEP_TIMEOUT_SECONDS\n" ++
      "                        Timeout in seconds for each fetch or install step\n" ++
      "  --metrics-gateway METRICS_GATEWAY_URL\n" ++
      "  --log-level \x7bDEBUG,INFO,WARNING,ERROR\x7d\n" ++
      "  --json-logs\n"

namespace Stop

def exitCode : Stop → Int
  | .help _ => 0
  | .refused _ _ => 2

def output : Stop → String
  | .help level => level.usage ++ level.explanation
  | .refused _ _ => ""

def errors : Stop → String
  | .help _ => ""
  | .refused level refusal =>
      level.usage ++ level.name ++ ": error: " ++ refusal.message ++ "\n"

end Stop

end Toolset.CommandLine
