import Publishing.Json.Value
import Publishing.Language
import Publishing.Text.Blank
import Publishing.Variation

/-!
# Fallback to other languages

Two modes read a value in another language than the one asked for: one follows
the fallback links of the requested language, the other tries the default
language.  Both miss when no language is asked for.
-/

namespace Publishing.Languages

/-- The culture of a variant, if there is one and it is not blank. -/
def askedFor (v : Variant) : Option String :=
  v.culture.filter fun culture => !Text.isBlank culture

/-- The value that a look-up gives, if it is not `null`. -/
def readIn (lookup : Variant → Option Json) (v : Variant) (culture : String) : Option Json :=
  (lookup { v with culture := some culture }).filter fun value => !value.isNull

/-- The value in the first language of the fallback chain that has one.  The
requested language is not taken out of the chain: a link back to it leads to it
once. -/
def inChain (ls : Languages) (lookup : Variant → Option Json) (v : Variant) : Option Json := do
  let culture ← askedFor v
  let language ← ls.find? culture
  (ls.chain language).findSome? fun target => readIn lookup v target.isoCode

/-- The value in the default language, unless that is the language asked for. -/
def inDefault (ls : Languages) (lookup : Variant → Option Json) (v : Variant) : Option Json := do
  let culture ← askedFor v
  let default ← ls.defaultIsoCode?
  if Culture.agree culture default then none else readIn lookup v default

end Publishing.Languages
