/-!
# Fallback policies

A mode is one way to come by a value when a property has none.  A policy is a
list of modes, tried in the order given.  Modes have stable integer codes; a
code that names no mode never makes it into a policy.
-/

namespace Publishing

/-- A way to come by a value. -/
inductive Mode where
  /-- Do nothing and go on to the next mode. -/
  | none
  /-- Take the caller's default. -/
  | defaultValue
  /-- Follow the fallback chain of the requested language. -/
  | language
  /-- Walk up the tree. -/
  | ancestors
  /-- Try the default language once. -/
  | defaultLanguage
deriving DecidableEq

namespace Mode

/-- Every mode, in the order of the codes. -/
def all : List Mode :=
  [.none, .defaultValue, .language, .ancestors, .defaultLanguage]

/-- The stable code of a mode. -/
def code : Mode → Int
  | .none => 0
  | .defaultValue => 1
  | .language => 2
  | .ancestors => 3
  | .defaultLanguage => 4

/-- The mode with a given code. -/
def ofCode? : Int → Option Mode
  | 0 => some .none
  | 1 => some .defaultValue
  | 2 => some .language
  | 3 => some .ancestors
  | 4 => some .defaultLanguage
  | _ => Option.none

/-- The name under which a mode is written. -/
def name : Mode → String
  | .none => "none"
  | .defaultValue => "default_value"
  | .language => "language"
  | .ancestors => "ancestors"
  | .defaultLanguage => "default_language"

@[simp] theorem ofCode?_code (m : Mode) : ofCode? m.code = some m := by
  cases m <;> rfl

end Mode

/-- A code that names no mode. -/
structure UnknownCode where
  code : Int
deriving DecidableEq

/-- The report on a code that names no mode. -/
def UnknownCode.message (e : UnknownCode) : String :=
  "unknown fallback code: " ++ toString e.code

/-- The mode with a given code, or the report that there is none. -/
def Mode.ofCode (code : Int) : Except UnknownCode Mode :=
  match ofCode? code with
  | some m => .ok m
  | Option.none => .error ⟨code⟩

/-- Modes in the order in which they are tried. -/
@[ext] structure Policy where
  modes : List Mode
deriving DecidableEq

namespace Policy

/-- No fallback at all. -/
def empty : Policy := ⟨[]⟩

instance : Inhabited Policy := ⟨empty⟩

/-- The policy of one mode. -/
def single (m : Mode) : Policy := ⟨[m]⟩

/-- The policy with one more mode at its end. -/
def push (p : Policy) (m : Mode) : Policy := ⟨p.modes ++ [m]⟩

/-- The codes of the modes, in order. -/
def codes (p : Policy) : List Int := p.modes.map Mode.code

/-- Whether a mode occurs in the policy. -/
def contains (p : Policy) (m : Mode) : Bool := p.modes.contains m

/-- Whether the policy has no mode. -/
def isEmpty (p : Policy) : Bool := p.modes.isEmpty

/-- The number of modes, repetitions counted. -/
def size (p : Policy) : Nat := p.modes.length

/-- Reads a list of codes up to the first that names no mode. -/
def modesOfCodes : List Int → Except UnknownCode (List Mode)
  | [] => .ok []
  | c :: cs => (Mode.ofCode c).bind fun m => (modesOfCodes cs).map (m :: ·)

/-- The policy with the given codes. -/
def ofCodes (codes : List Int) : Except UnknownCode Policy :=
  (modesOfCodes codes).map Policy.mk

end Policy

end Publishing
