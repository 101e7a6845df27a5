import Publishing.Json.Value
import Publishing.Policy

/-!
# What a policy selects

Trying the modes of a policy comes down to a selection: a stored value, the
caller's default, a mode that cannot be used, or nothing.  The first mode that
does not miss decides.  Which type the caller wants is not asked before: a
selected value is converted afterwards, once.
-/

namespace Publishing

/-- What a value is looked up on. -/
inductive Level where
  | property
  | element
  | content
deriving DecidableEq

/-- The name of a level. -/
def Level.name : Level → String
  | .property => "property"
  | .element => "element"
  | .content => "content"

/-- What a policy comes down to. -/
inductive Selection where
  /-- A stored value. -/
  | stored (value : Json)
  /-- The default that the caller gave, or did not give. -/
  | callerDefault
  /-- A mode that cannot be used at a level. -/
  | unsupported (mode : Mode) (level : Level)
  /-- Nothing: no mode led to a value. -/
  | miss

namespace Selection

/-- A stored value if there is one. -/
def ofOption : Option Json → Selection
  | some v => .stored v
  | none => .miss

/-- Whether nothing was selected. -/
def isMiss : Selection → Bool
  | .miss => true
  | _ => false

end Selection

/-- Tries modes in order until one does not miss.  A mode may leave notes for those
that follow. -/
def tryModes {σ : Type} (attempt : Mode → σ → Selection × σ) : List Mode → σ → Selection × σ
  | [], notes => (.miss, notes)
  | m :: ms, notes =>
    match attempt m notes with
    | (.miss, notes) => tryModes attempt ms notes
    | decided => decided

/-- The outcome of a policy in the type that the caller wants. -/
inductive Resolution (α : Type) where
  /-- A mode led to a value.  There is none if it is `null`, or if the caller's
  default was asked for and not given. -/
  | found (value : Option α)
  | notFound
deriving DecidableEq

/-- Why a value could not be delivered; `cause` is what a conversion reports. -/
inductive ResolveError (ε : Type) where
  /-- The policy has a mode that cannot be used at the level. -/
  | unsupported (mode : Mode) (level : Level)
  /-- The value of a property is not of the type that the caller wants. -/
  | conversion (property : String) (cause : ε)
deriving DecidableEq

/-- The report on a value that could not be delivered. -/
def ResolveError.message {ε : Type} (describe : ε → String) : ResolveError ε → String
  | .unsupported mode level =>
    "fallback mode '" ++ mode.name ++ "' (code " ++ toString mode.code ++ ") is not supported at "
      ++ level.name ++ " level"
  | .conversion property cause =>
    "value of property '" ++ property ++ "' could not be converted: " ++ describe cause

/-- Converts the value of a property; `null` converts to no value. -/
def convert {α ε : Type} (read : Json → Except ε α) (property : String) (v : Json) :
    Except (ResolveError ε) (Option α) :=
  if v.isNull then .ok none
  else match read v with
    | .ok a => .ok (some a)
    | .error cause => .error (.conversion property cause)

namespace Selection

/-- What was selected, in the type that the caller wants. -/
def resolution {α ε : Type} (read : Json → Except ε α) (property : String) (default : Option α) :
    Selection → Except (ResolveError ε) (Resolution α)
  | .stored v => (convert read property v).map .found
  | .callerDefault => .ok (.found default)
  | .unsupported mode level => .error (.unsupported mode level)
  | .miss => .ok .notFound

/-- The value selected, in the type that the caller wants. -/
def value {α ε : Type} (read : Json → Except ε α) (property : String) (default : Option α) :
    Selection → Except (ResolveError ε) (Option α)
  | .stored v => convert read property v
  | .callerDefault => .ok default
  | .unsupported mode level => .error (.unsupported mode level)
  | .miss => .ok none

end Selection

end Publishing
