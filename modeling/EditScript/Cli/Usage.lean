import EditScript.Text.Basic

/-!
# Help and usage

The commands and flags of the program, and the pages of help about them. The
usage is the part of a page in front of its first empty line.
-/

namespace EditScript.Cli

inductive Command where
  | parse
  | diff
  | apply
  | tags
  deriving DecidableEq, Repr

/-- The flags. None of them takes a value. -/
inductive Flag where
  | help
  | noInputText
  | noAdjust
  | insertOnly
  | json
  deriving DecidableEq, Repr

/-- The pages of help: one for the program, one for each command. -/
inductive Page where
  | program
  | command (named : Command)
  deriving DecidableEq, Repr

namespace Command

def name : Command → String
  | parse => "parse"
  | diff => "diff"
  | apply => "apply"
  | tags => "tags"

def all : List Command :=
  [parse, diff, apply, tags]

def ofName? (name : Text) : Option Command :=
  all.find? fun command => command.name.toList == name

end Command

namespace Flag

def short? : Flag → Option String
  | help => some "-h"
  | _ => none

def long : Flag → String
  | help => "--help"
  | noInputText => "--no-input-text"
  | noAdjust => "--no-adjust"
  | insertOnly => "--insert-only"
  | json => "--json"

def spellings (flag : Flag) : List String :=
  flag.short?.toList ++ [flag.long]

def label (flag : Flag) : String :=
  "/".intercalate flag.spellings

end Flag

namespace Page

def subject : Page → String
  | program => "editops"
  | command named => "editops " ++ named.name

def flags : Page → List Flag
  | program => [.help]
  | command .parse => [.help, .json]
  | command .diff => [.help, .noInputText, .noAdjust, .insertOnly, .json]
  | command .apply => [.help]
  | command .tags => [.help]

def usageLines : Page → List String
  | program => ["usage: editops [-h] \x7bparse,diff,apply,tags\x7d ..."]
  | command .parse => ["usage: editops parse [-h] [--json] operations [operations ...]"]
  | command .diff =>
    ["usage: editops diff [-h] [--no-input-text] [--no-adjust] [--insert-only]",
      "                    [--json]",
      "                    source target"]
  | command .apply => ["usage: editops apply [-h] text operations [operations ...]"]
  | command .tags => ["usage: editops tags [-h] operations [operations ...]"]

def detailLines : Page → List String
  | program =>
    ["",
      "editops - parse, execute and derive text edit operations",
      "",
      "positional arguments:",
      "  \x7bparse,diff,apply,tags\x7d",
      "                        Available commands",
      "    parse               Parse and normalize operations",
      "    diff                Derive operations between two strings",
      "    apply               Execute operations against a text",
      "    tags                Count the tags of operations",
      "",
      "options:",
      "  -h, --help            show this help message and exit"]
  | command .parse =>
    ["",
      "positional arguments:",
      "  operations  Operations in DSL notation",
      "",
      "options:",
      "  -h, --help  show this help message and exit",
      "  --json      Print operations as JSON"]
  | command .diff =>
    ["",
      "positional arguments:",
      "  source           Original text",
      "  target           Transformed text",
      "",
      "options:",
      "  -h, --help       show this help message and exit",
      "  --no-input-text  Do not describe the affected source text",
      "  --no-adjust      Do not merge deletions and insertions into moves",
      "  --insert-only    Only merge deletions with insertions, not replacements",
      "  --json           Print operations as JSON"]
  | command .apply =>
    ["",
      "positional arguments:",
      "  text        Text to transform",
      "  operations  Operations in DSL notation",
      "",
      "options:",
      "  -h, --help  show this help message and exit"]
  | command .tags =>
    ["",
      "positional arguments:",
      "  operations  Operations in DSL notation",
      "",
      "options:",
      "  -h, --help  show this help message and exit"]

def usage (page : Page) : Text :=
  Text.unlines (page.usageLines.map String.toList)

def help (page : Page) : Text :=
  page.usage ++ Text.unlines (page.detailLines.map String.toList)

end Page

end EditScript.Cli
