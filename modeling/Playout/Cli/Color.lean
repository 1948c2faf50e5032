/-!
# When to colour

The colour policy is chosen on the command line as `auto`, `always` or `never`. Under `auto` the
environment may switch colour off, and otherwise the stream must be a terminal.
-/

namespace Playout.Cli

inductive ColorPolicy where
  | auto
  | always
  | never
deriving DecidableEq, Repr, Inhabited

/-- The variables that bear on colour, where set. -/
structure Environment where
  noColor : Option String := none
  emacs : Option String := none
  term : Option String := none

/-- White space at the border of a text that is not part of its meaning. -/
def isBlank (c : Char) : Bool :=
  let n := c.toNat
  (0x09 ≤ n && n ≤ 0x0d) || n == 0x20 || n == 0x85 || n == 0xa0 || n == 0x1680 ||
    (0x2000 ≤ n && n ≤ 0x200a) || n == 0x2028 || n == 0x2029 || n == 0x202f || n == 0x205f ||
    n == 0x3000

def trim (text : List Char) : List Char :=
  ((text.dropWhile isBlank).reverse.dropWhile isBlank).reverse

namespace ColorPolicy

def name : ColorPolicy → String
  | .auto => "auto"
  | .always => "always"
  | .never => "never"

/-- Reads a policy: blanks around the word and the case of its letters do not matter. -/
def parse? (text : String) : Option ColorPolicy :=
  let word := (trim text.toList).map Char.toLower
  [auto, always, never].find? fun policy => policy.name.toList = word

/-- The wording for a text that names no policy. -/
def refusal (text : String) : String :=
  s!"invalid color policy '{text}' (expected auto, always or never)"

/-- The policy decides alone, except `auto`: a set `NO_COLOR` or `EMACS`, or a dumb terminal, means no
colour, and else only a terminal gets it. -/
def useColor (policy : ColorPolicy) (env : Environment) (isTerminal : Bool) : Bool :=
  match policy with
  | .always => true
  | .never => false
  | .auto =>
    if env.noColor.isSome || env.emacs.isSome || env.term == some "dumb" then false else isTerminal

end ColorPolicy

end Playout.Cli
