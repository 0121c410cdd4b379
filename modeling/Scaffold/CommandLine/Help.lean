/-
# Scaffold.CommandLine.Help -- what the program says about itself

The usage lines, the help, the version, and the two lines that follow the usage when a command
line is wrong. The texts are set for a terminal of eighty columns.
-/

import Scaffold.CommandLine.Parser

namespace Scaffold.CommandLine

/-- The name under which the program is called. -/
def programName : Text := "mongen".text

/-- The version of the program. -/
def programVersion : Text := "1.0.0".text

/-- Lines of text, each ended by a line feed. -/
def textLines (ls : List String) : Text := ls.flatMap fun l => l.text ++ [chr '\n']

/-- How the program is called, in short. -/
def usage : Text := textLines
  ["usage: mongen [-h] [--version] [-m MODEL] [-f FIELDS] [-r] [-t TREE] [--ts]",
   "              [-o OUTPUT]"]

/-- How the program is called, switch by switch. -/
def helpText : Text := usage ++ textLines
  ["",
   "Generate Mongoose models, Express routers and controllers",
   "",
   "options:",
   "  -h, --help            show this help message and exit",
   "  --version             show program's version number and exit",
   "  -m MODEL, --model MODEL",
   "                        model name",
   "  -f FIELDS, --fields FIELDS",
   "                        model fields (name1:type1,name2:type2)",
   "  -r, --rest            enable generation REST",
   "  -t TREE, --tree TREE  files tree generation grouped by <t>ype or by <m>odule",
   "  --ts                  generating code in TS",
   "  -o OUTPUT, --output OUTPUT",
   "                        output directory (default: current directory)",
   "",
   "Field format:",
   "  name1:type1[:ref][:array],name2:type2,...",
   "  types: string, number, date, boolean, array, objectId",
   "",
   "Examples:",
   "  mongen -m Post -f title:string,published:boolean --rest",
   "  mongen -m Post -f author:objectId:User,tags:string:array -t m --ts"]

/-- The name of the program with its version. -/
def versionText : Text := programName ++ chr ' ' :: programVersion ++ [chr '\n']

/-- What is said of a wrong command line. -/
def UsageError.text (e : UsageError) : Text :=
  usage ++ programName ++ ": error: ".text ++ e.message ++ [chr '\n']

end Scaffold.CommandLine
