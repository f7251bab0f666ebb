import BlogOperator.Pattern.Reader

/-!
# Automata for patterns

An automaton reads a text byte by byte and decides at each of them where to go on. It can be built
for every sound pattern except those that ask for the edge of a word of any script, which cannot be
told from a single byte. `Pattern.check` says which of them a text is.
-/

set_option autoImplicit false

namespace BlogOperator

/-- Why there is no automaton for a text. -/
inductive PatternFault where
  /-- It is no sound pattern. -/
  | unsound
  /-- It asks for the edge of a word of any script. -/
  | wordEdge
  deriving DecidableEq, Repr

/-- The sentence that reports why there is no automaton. -/
def PatternFault.message : PatternFault → String
  | unsound => "error building NFA"
  | wordEdge => "unsupported regex feature for DFAs: cannot build DFAs for regexes with " ++
      "Unicode word boundaries; switch to ASCII word boundaries, or heuristically enable " ++
      "Unicode word boundaries or use a different regex engine"

/-- Whether there is an automaton for a text. -/
def Pattern.check (characters : List Char) : Except PatternFault Unit :=
  match (Pattern.read? characters).bind (Pattern.follow {}) with
  | none => .error .unsound
  | some outlook => if outlook.wordEdge then .error .wordEdge else .ok ()

end BlogOperator
