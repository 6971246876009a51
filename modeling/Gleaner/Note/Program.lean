import Gleaner.CommandLine
import Gleaner.Note.Client

/-!
# The command line of the note service

One command for each request; the replies of most of them can be shown in full.

* `commands` — the grammar.
* `perform` — carries out a command.
* `run` — the program.
-/

namespace Gleaner.Note

variable [Platform]

open CommandLine

/-- Lines of a text. -/
def linesOf (ls : List String) : Text :=
  Text.join ['\n'] (ls.map String.toList)

/-- The orders in which notes can be asked for. -/
def orders : List Text := ["综合", "最新", "最多点赞", "最多评论", "最多收藏"]

/-- The kinds of notes. -/
def kinds : List Text := ["不限", "视频", "图文"]

/-- The times within which notes were published. -/
def times : List Text := ["不限", "一天内", "一周内", "半年内"]

/-- The grammar of `status`. -/
def statusGrammar : Grammar where
  program := "xhs_client.py status"
  usage := "usage: xhs_client.py status [-h]"
  about := linesOf [
    "options:",
    "  -h, --help  show this help message and exit"]
  switches := [Switch.help]
  words := []

/-- The grammar of `search`. -/
def searchGrammar : Grammar where
  program := "xhs_client.py search"
  usage := linesOf [
    "usage: xhs_client.py search [-h] [--sort \x7b综合,最新,最多点赞,最多评论,最多收藏\x7d]",
    "                            [--type \x7b不限,视频,图文\x7d] [--time \x7b不限,一天内,一周内,半年内\x7d]",
    "                            [--json]",
    "                            keyword"]
  about := linesOf [
    "positional arguments:",
    "  keyword               Search keyword",
    "",
    "options:",
    "  -h, --help            show this help message and exit",
    "  --sort \x7b综合,最新,最多点赞,最多评论,最多收藏\x7d",
    "                        Sort by",
    "  --type \x7b不限,视频,图文\x7d     Note type",
    "  --time \x7b不限,一天内,一周内,半年内\x7d",
    "                        Publish time",
    "  --json                Output raw JSON"]
  switches := [Switch.help, .value "sort" orders, .value "type" kinds, .value "time" times,
    .flag "json"]
  words := ["keyword"]

/-- The grammar of `detail`. -/
def detailGrammar : Grammar where
  program := "xhs_client.py detail"
  usage := "usage: xhs_client.py detail [-h] [--comments] [--json] feed_id xsec_token"
  about := linesOf [
    "positional arguments:",
    "  feed_id     Feed ID",
    "  xsec_token  Security token",
    "",
    "options:",
    "  -h, --help  show this help message and exit",
    "  --comments  Load all comments",
    "  --json      Output raw JSON"]
  switches := [Switch.help, .flag "comments", .flag "json"]
  words := ["feed_id", "xsec_token"]

/-- The grammar of `feeds`. -/
def feedsGrammar : Grammar where
  program := "xhs_client.py feeds"
  usage := "usage: xhs_client.py feeds [-h] [--json]"
  about := linesOf [
    "options:",
    "  -h, --help  show this help message and exit",
    "  --json      Output raw JSON"]
  switches := [Switch.help, .flag "json"]
  words := []

/-- The grammar of `publish`. -/
def publishGrammar : Grammar where
  program := "xhs_client.py publish"
  usage := "usage: xhs_client.py publish [-h] [--tags TAGS] title content images"
  about := linesOf [
    "positional arguments:",
    "  title        Note title",
    "  content      Note content",
    "  images       Image URLs (comma-separated)",
    "",
    "options:",
    "  -h, --help   show this help message and exit",
    "  --tags TAGS  Tags (comma-separated)"]
  switches := [Switch.help, .value "tags" []]
  words := ["title", "content", "images"]

/-- The grammar of the program itself. -/
def mainGrammar : Grammar where
  program := "xhs_client.py"
  usage := "usage: xhs_client.py [-h] \x7bstatus,search,detail,feeds,publish\x7d ..."
  about := linesOf [
    "Xiaohongshu MCP Client",
    "",
    "positional arguments:",
    "  \x7bstatus,search,detail,feeds,publish\x7d",
    "                        Available commands",
    "    status              Check login status",
    "    search              Search notes",
    "    detail              Get note details",
    "    feeds               Get recommended feeds",
    "    publish             Publish a note",
    "",
    "options:",
    "  -h, --help            show this help message and exit",
    "",
    "Xiaohongshu MCP Client - A Python client for xiaohongshu-mcp HTTP API.",
    "",
    "Usage:",
    "    python xhs_client.py <command> [options]",
    "",
    "Commands:",
    "    status              Check login status",
    "    search <keyword>    Search notes by keyword",
    "    detail <feed_id> <xsec_token>   Get note details",
    "    feeds               Get recommended feed list",
    "    publish <title> <content> <images>  Publish a note",
    "",
    "Examples:",
    "    python xhs_client.py status",
    "    python xhs_client.py search \"咖啡推荐\"",
    "    python xhs_client.py detail \"abc123\" \"token456\"",
    "    python xhs_client.py feeds"]
  switches := [Switch.help]
  words := []

/-- The commands of the program. -/
def commands : Commands where
  main := mainGrammar
  commands := [("status", statusGrammar), ("search", searchGrammar), ("detail", detailGrammar),
    ("feeds", feedsGrammar), ("publish", publishGrammar)]

/-- A value of a command line, or a default. -/
def valueOr (values : List (Text × Json)) (name : Text) (default : Json) : Json :=
  (Json.find? name values).getD default

/-- Shows a reply in full if that was asked for. -/
def showReply (values : List (Text × Json)) (reply : Json) : Program Unit :=
  if (valueOr values "json" (.bool false)).isTruthy then say [Json.write Json.shown reply]
  else pure ()

/-- The parts of a text between commas. -/
def listOf (t : Text) : Json :=
  .arr ((Text.splitOn ',' t).map .str)

/-- Publishes the note of a command line. -/
def performPublish (values : List (Text × Json)) : Program Unit := do
  let images ← Program.lift ((valueOr values "images" .null).asText "split")
  let tags := match valueOr values "tags" .null with
    | .str [] => .null
    | .str t => listOf t
    | v => v
  let _ ← publish (valueOr values "title" .null) (valueOr values "content" .null) (listOf images) tags

/-- Carries out a command. -/
def perform (command : Text) (values : List (Text × Json)) : Program Unit := do
  let value := valueOr values
  match String.ofList command with
  | "status" => do
      let _ ← status
  | "search" => do
      let reply ← search ⟨value "keyword" .null, value "sort" "综合", value "type" "不限",
        value "time" "不限"⟩
      showReply values reply
  | "detail" => do
      let reply ← detail (value "feed_id" .null) (value "xsec_token" .null)
        (value "comments" (.bool false))
      showReply values reply
  | "feeds" => do
      let reply ← feeds
      showReply values reply
  | _ => performPublish values

/-- The program. -/
def run (arguments : List Text) : Program Unit := do
  match commands.read arguments with
  | .error refusal => refusal.end
  | .ok none => do
      print [mainGrammar.helpText]
      Program.exit 1
  | .ok (some (command, values)) => perform command values

end Gleaner.Note
