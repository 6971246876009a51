import Gleaner.CommandLine
import Gleaner.Episode.Collector
import Gleaner.Episode.Printing

/-!
# The command line of the list generator

The list generator takes the address of the index page.

* `listGrammar` — the grammar.
* `runGenerator` — the program.
-/

namespace Gleaner.Episode

variable [Platform]

open CommandLine

/-- The grammar of the list generator. -/
def listGrammar : Grammar where
  program := "01_generate_episode_list.py"
  usage := "usage: 01_generate_episode_list.py [-h] [--url URL]"
  about := Text.join ['\n'] [
    "Generate episode list for South Park from IMSDb.",
    "",
    "options:",
    "  -h, --help  show this help message and exit",
    "  --url URL   URL of the TV transcript page"]
  switches := [Switch.help, .value "url" []]
  words := []

/-- The list generator. -/
def runGenerator (arguments : List Text) : Program Unit := do
  match listGrammar.read arguments with
  | .error refusal => refusal.end
  | .ok values =>
      generateList ((Json.find? "url" values).getD (.str indexUrl))

end Gleaner.Episode
