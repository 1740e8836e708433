import CodeAtlas.Shell.Tools.Bytes
import CodeAtlas.Shell.Tools.Dates
import CodeAtlas.Shell.Tools.Diff
import CodeAtlas.Shell.Tools.Digests
import CodeAtlas.Shell.Tools.Expr
import CodeAtlas.Shell.Tools.Grep
import CodeAtlas.Shell.Tools.Layout
import CodeAtlas.Shell.Tools.Lines
import CodeAtlas.Shell.Tools.Sed
import CodeAtlas.Shell.Tools.Sort

/-!
# All tools

The tools of the system by name, besides those that wait or start others.
-/

namespace CodeAtlas

namespace Shell

/-- The tools that work on lines and bytes. -/
def textTools : List (String × (ToolCall → ToolResult)) :=
  [("cat", catTool), ("tac", tacTool), ("rev", revTool), ("nl", nlTool), ("fold", foldTool),
   ("tee", teeTool), ("head", headTool), ("tail", tailTool), ("wc", wcTool), ("cut", cutTool),
   ("paste", pasteTool), ("uniq", uniqTool), ("comm", commTool), ("sort", sortTool),
   ("tr", trTool), ("od", odTool), ("dd", ddTool), ("cmp", cmpTool), ("join", joinTool),
   ("diff", diffTool), ("md5sum", digestTool "MD5" 16 Md5.digest),
   ("sha1sum", digestTool "SHA1" 20 Sha1.digest),
   ("sha256sum", digestTool "SHA256" 32 Sha256.digest),
   ("sha384sum", digestTool "SHA384" 48 Sha512.shortDigest),
   ("sha512sum", digestTool "SHA512" 64 Sha512.digest), ("cksum", cksumTool), ("sum", sumTool),
   ("expand", expandTool), ("unexpand", unexpandTool), ("split", splitTool),
   ("tsort", tsortTool), ("shuf", shufTool),
   ("base64", base64Tool), ("grep", grepTool), ("egrep", grepTool), ("fgrep", grepTool),
   ("sed", sedTool)]

/-- The tools that work on files. -/
def fileTools : List (String × (ToolCall → ToolResult)) :=
  [("touch", touchTool), ("rm", rmTool), ("rmdir", rmdirTool), ("mkdir", mkdirTool),
   ("cp", cpTool), ("mv", mvTool), ("ln", lnTool), ("link", linkTool), ("unlink", unlinkTool),
   ("mktemp", mktempTool), ("install", installTool), ("chmod", chmodTool),
   ("truncate", truncateTool), ("stat", statTool), ("ls", lsTool), ("readlink", readlinkTool),
   ("realpath", realpathTool), ("pwd", pwdTool)]

/-- The tools that look at their arguments and the environment only. -/
def valueTools : List (String × (ToolCall → ToolResult)) :=
  [("true", fun _ => {}), ("false", fun _ => { status := 1 }), ("echo", echoTool),
   ("printf", printfTool), ("yes", yesTool), ("seq", seqTool), ("factor", factorTool),
   ("basename", basenameTool), ("dirname", dirnameTool), ("printenv", printenvTool),
   ("test", testTool), ("[", testTool), ("expr", exprTool), ("id", idTool),
   ("whoami", fun _ => .printing "root\n"), ("groups", fun _ => .printing "root\n"),
   ("logname", lognameTool), ("tty", ttyTool), ("uname", unameTool),
   ("arch", fun _ => .printing "x86_64\n"), ("nproc", fun _ => .printing "1\n"),
   ("date", dateTool), ("sync", fun _ => {})]

/-- All tools. -/
def tools : List (String × (ToolCall → ToolResult)) := textTools ++ fileTools ++ valueTools

/-- The names of all tools. -/
def toolNames : List String := tools.map (·.1)

/-- **Runs a tool.** -/
def ToolCall.run (c : ToolCall) : ToolResult :=
  match tools.lookup c.name with
  | some f => f c
  | none => { status := 1 }

end Shell

end CodeAtlas
