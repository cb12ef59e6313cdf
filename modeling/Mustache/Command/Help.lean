/-!
**Help.**

What is written where help or the version is asked for before any command.

* `usageLine`: the arguments in short.
* `helpText`: the commands and the options before them.
* `versionLine`: the version.
-/

namespace Mustache.Command

/-- The name the program goes by. -/
def programName : String := "stache"

/-- The version of the program. -/
def version : String := "0.1.0"

/-- **The line that tells the version.** -/
def versionLine : String := programName ++ " " ++ version ++ "\n"

/-- The commands there are. -/
def commandNames : String := "\x7brender,parse\x7d"

/-- **The line that tells the arguments in short.** -/
def usageLine : String := "usage: " ++ programName ++ " [-h] [-v] " ++ commandNames ++ " ...\n"

/-- A line of help: a name with spaces in front and behind, up to a column, and what it is about. -/
def helpLine (indentation : Nat) (name about : String) : String :=
  "".pushn ' ' indentation ++ name ++ "".pushn ' ' (18 - indentation - name.length) ++ about ++ "\n"

/-- **The help**: the arguments in short, what the program is for, its commands and its options. -/
def helpText : String :=
  usageLine ++ "\nMustache template renderer\n\npositional arguments:\n" ++
    "  " ++ commandNames ++ "\n" ++
    helpLine 4 "render" "Отрисовать шаблон" ++
    helpLine 4 "parse" "Дерево токенов шаблона (JSON)" ++
    "\noptions:\n" ++
    helpLine 2 "-h, --help" "show this help message and exit" ++
    helpLine 2 "-v, --version" "show program's version number and exit"

end Mustache.Command
