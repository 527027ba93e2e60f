import CloneScan.Regex.Pattern
import CloneScan.Unicode.Age
import CloneScan.Unicode.Break

/-!
# Properties by Name

What a pattern asks for when it names a property. Names are compared in a form that leaves out
what writers of patterns differ in: case, blanks, dashes and an `is` in front.

A name alone is that of a property which holds or does not hold, of a general category or of a
script. Where there are two names, the first is that of a property with values and the second
that of a value.

## Main definitions

* `PropertyQuery.normalForm`: The form in which names are compared.
* `PropertyQuery.toSet`: The characters that a query asks for.
-/

namespace CloneScan

namespace PropertyQuery

/-- The form in which names are compared. The abbreviation `isc` keeps what looks like an `is` in
    front. -/
def normalForm (name : List Char) : String :=
  let isPrefixed := (name.take 2).map Char.toLower == ['i', 's']
  let kept := (if isPrefixed then name.drop 2 else name).filter fun c =>
    c.toNat < 128 && c != ' ' && c != '_' && c != '-'
  let form := String.ofList (kept.map Char.toLower)
  if isPrefixed && form == "c" then "isc" else form

/-- The properties with values. -/
def properties : List (List String × Unicode.PropertyValues) :=
  [(["gc", "generalcategory"], Unicode.Category.values),
   (["sc", "script"], Unicode.scripts),
   (["scx", "scriptextensions"], Unicode.scriptExtensions),
   (["age"], Unicode.ages),
   (["gcb", "graphemeclusterbreak"], Unicode.graphemeBreaks),
   (["wb", "wordbreak"], Unicode.wordBreaks),
   (["sb", "sentencebreak"], Unicode.sentenceBreaks)]

/-- The first of several lists of names that has a name, with what comes with it. -/
def find? {α : Type} (name : String) (entries : List (List String × α)) : Option α :=
  (entries.find? fun entry => entry.1.contains name).map Prod.snd

/-- The characters of a value, if it has any. -/
def members : Option (Char → Bool) → Except PatternError CharSet
  | some has => .ok ⟨has⟩
  | none => .error .unknownPropertyValue

/-- The characters that a query asks for. -/
def toSet : PropertyQuery → Except PatternError CharSet
  | named name =>
    let name := normalForm name
    match find? name Unicode.binaryProperties <|> find? name Unicode.Category.values <|>
        find? name Unicode.scripts with
    | some has => members has
    | none => .error .unknownProperty
  | valued property value =>
    let property := normalForm property
    match find? property properties with
    | some values => ((find? (normalForm value) values).map members).getD
        (.error .unknownPropertyValue)
    | none =>
      if (find? property Unicode.binaryProperties).isSome ||
          Unicode.otherProperties.contains property then
        .error .unknownPropertyValue
      else .error .unknownProperty

end PropertyQuery

end CloneScan
