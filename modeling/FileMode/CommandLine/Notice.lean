import FileMode.Text.Filling

/-!
# Notices

The texts with which the command explains itself. They name the command as it was called, by the
last part of its path.

A notice is laid out on a screen of 80 columns: no more than two line feeds stand in a row, and the
version is set in lines that leave two columns free. The name of the command is **not** laid out
where it stands in front of a message.
-/

namespace FileMode

namespace Notice

/-- The name of the command that lies at a path: what stands behind the last slash. -/
def commandName (path : String) : String :=
  String.ofList (path.toList.reverse.takeWhile (· ≠ '/')).reverse

/-- The width of a line of the version notice. -/
def lineWidth : Nat := 78

/-- The line that says how a command is called. -/
def usage (command : String) : String :=
  String.ofList (Text.limitLineFeeds 0 ("usage: " ++ command ++ " [-q] mode ...\n").toList)

/-- The explanation of the arguments. -/
def explanation : String :=
  "
Parse chmod-style permission modes.

positional arguments:
  modes        Octal (e.g., 755) or symbolic (e.g., u=rwX,go=rX) modes.

options:
  -h, --help   show this help message and exit
  -q, --quiet  Only report invalid modes.
  --version    show program's version number and exit
"

/-- How a command is called, with an explanation of the arguments. -/
def help (command : String) : String := usage command ++ explanation

/-- The number of the version. -/
def versionNumber : String := "1.0"

/-- The name of a command and its version. -/
def version (command : String) : String :=
  String.ofList (Text.fill lineWidth (by decide) (command ++ " " ++ versionNumber).toList) ++ "\n"

/-- How a command is called, with a mistake in calling it. -/
def mistake (command message : String) : String :=
  usage command ++ command ++ ": error: " ++ message ++ "\n"

end Notice

end FileMode
