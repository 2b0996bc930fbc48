import DocQuery.Regex.Error
import DocQuery.Unicode.Age
import DocQuery.Unicode.CaseFold
import DocQuery.Unicode.Segmentation
/-! Sets of characters by name. -/

namespace DocQuery.Regex

open Unicode (Ranges)

/-- A name without blanks, hyphens and underscores, in lower case and without `is` at its start. -/
def plainName (name : String) : String :=
  let cs := name.toList
  let startsWithIs := ["is".toList, "IS".toList, "iS".toList, "Is".toList].contains (cs.take 2)
  let plain := ((if startsWithIs then cs.drop 2 else cs).filter fun c =>
    c != ' ' && c != '_' && c != '-' && c.toNat < 0x80).map Char.toLower
  if startsWithIs && plain == ['c'] then "isc" else String.ofList plain

/-- General categories that stand for several, by the first names of those. -/
def categoryGroups : List (List String × List String) :=
  [(["l", "letter"], ["lu", "ll", "lt", "lm", "lo"]),
    (["lc", "casedletter"], ["lu", "ll", "lt"]),
    (["m", "mark", "combiningmark"], ["mn", "mc", "me"]),
    (["n", "number"], ["nd", "nl", "no"]),
    (["p", "punctuation", "punct"], ["pc", "pd", "ps", "pe", "pi", "pf", "po"]),
    (["s", "symbol"], ["sm", "sc", "sk", "so"]),
    (["z", "separator"], ["zs", "zl", "zp"])]

/-- The characters of a general category; surrogates are none. -/
def category? (name : String) : Option Ranges :=
  match name with
  | "any" => some (.ofPair 0 Ranges.maxPoint)
  | "ascii" => some (.ofPair 0 0x7f)
  | "assigned" => some Unicode.assigned
  | "cn" | "unassigned" => some Unicode.assigned.complement
  | "c" | "other" =>
    some (Unicode.assigned.complement.union (Unicode.categories.union ["cc", "cf", "co"]))
  | name =>
    match categoryGroups.find? fun g => g.1.contains name with
    | some (_, members) => some (Unicode.categories.union members)
    | none => Unicode.categories.find? name

/-- Names of categories and scripts that no character has. -/
def emptyNames : List String :=
  ["cs", "surrogate", "hrkt", "katakanaorhiragana", "zzzz", "unknown"]

/-- Properties that have no values to choose from, by their names. -/
def otherProperties : List String :=
  ["nv", "numericvalue", "bmg", "bidimirroringglyph", "bpb", "bidipairedbracket", "cf",
    "casefolding", "dm", "decompositionmapping", "equideo", "equivalentunifiedideograph", "fcnfkc",
    "fcnfkcclosure", "lc", "lowercasemapping", "nfkccf", "nfkccasefold", "nfkcscf",
    "nfkcsimplecasefold", "scf", "simplecasefolding", "sfc", "slc", "simplelowercasemapping", "stc",
    "simpletitlecasemapping", "suc", "simpleuppercasemapping", "tc", "titlecasemapping", "uc",
    "uppercasemapping", "isc", "isocomment", "jsn", "jamoshortname", "na", "name", "na1",
    "unicode1name", "namealias", "blk", "block", "bc", "bidiclass", "bpt", "bidipairedbrackettype",
    "ccc", "canonicalcombiningclass", "dt", "decompositiontype", "ea", "eastasianwidth", "hst",
    "hangulsyllabletype", "incb", "indicconjunctbreak", "inpc", "indicpositionalcategory", "insc",
    "indicsyllabiccategory", "jg", "joininggroup", "jt", "joiningtype", "lb", "linebreak", "nfcqc",
    "nfcquickcheck", "nfdqc", "nfdquickcheck", "nfkcqc", "nfkcquickcheck", "nfkdqc",
    "nfkdquickcheck", "nt", "numerictype", "vo", "verticalorientation", "ce",
    "compositionexclusion", "compex", "fullcompositionexclusion", "cwkcf",
    "changeswhennfkccasefolded", "xonfc", "expandsonnfc", "xonfd", "expandsonnfd", "xonfkc",
    "expandsonnfkc", "xonfkd", "expandsonnfkd", "cjkaccountingnumeric", "kaccountingnumeric",
    "cjkothernumeric", "kothernumeric", "cjkprimarynumeric", "kprimarynumeric",
    "cjkcompatibilityvariant", "kcompatibilityvariant", "cjkiicore", "kiicore", "cjkirggsource",
    "kirggsource", "cjkirghsource", "kirghsource", "cjkirgjsource", "kirgjsource", "cjkirgkpsource",
    "kirgkpsource", "cjkirgksource", "kirgksource", "cjkirgmsource", "kirgmsource", "cjkirgssource",
    "kirgssource", "cjkirgtsource", "kirgtsource", "cjkirguksource", "kirguksource",
    "cjkirgusource", "kirgusource", "cjkirgvsource", "kirgvsource", "cjkrsunicode", "krsunicode",
    "unicoderadicalstroke", "urs", "kehcat", "kehdesc", "kehhg", "kehifao", "kehjsesh",
    "kehnomirror", "kehnorotate"]

/-- The characters that have a value of a property, or nothing for another property. -/
def valued? (property value : String) : Option (Option Ranges) :=
  match property with
  | "gc" | "generalcategory" => some (category? value)
  | "sc" | "script" => some (Unicode.script? value)
  | "scx" | "scriptextensions" => some (Unicode.scriptUse? value)
  | "age" => some (Unicode.edition? value)
  | "gcb" | "graphemeclusterbreak" => some (Unicode.graphemeBreak? value)
  | "wb" | "wordbreak" => some (Unicode.wordBreak? value)
  | "sb" | "sentencebreak" => some (Unicode.sentenceBreak? value)
  | _ =>
    if otherProperties.contains property || (Unicode.property? property).isSome then some none
    else none

/-- The characters of a class of Unicode. -/
def ClassName.ranges (name : ClassName) : Except Problem Ranges :=
  match name with
  | .single name =>
    let name := plainName name
    let property := if ["cf", "sc", "lc"].contains name then none else Unicode.property? name
    match (property.or (category? name)).or (Unicode.script? name) with
    | some r => .ok r
    | none => .error (if emptyNames.contains name then .unknownPropertyValue else .unknownProperty)
  | .valued property value =>
    match valued? (plainName property) (plainName value) with
    | none => .error .unknownProperty
    | some none => .error .unknownPropertyValue
    | some (some r) => .ok r

/-- Decimal digits. -/
def digits : Ranges := Unicode.categories.union ["nd"]

/-- Blank space. -/
def spaces : Ranges := Unicode.properties.union ["wspace"]

/-- Characters of words: letters, marks, digits, connecting punctuation and joiners. -/
def wordChars : Ranges :=
  Unicode.alphabetic.union (Unicode.setOf ["mn", "mc", "me", "nd", "pc"] ["joinc"])

/-- The characters of a class of ASCII. -/
def asciiClass (name : String) : Ranges :=
  .ofText <| match name with
    | "alnum" => "30-39 41-5a 61-7a"
    | "alpha" => "41-5a 61-7a"
    | "ascii" => "0-7f"
    | "blank" => "9 20"
    | "cntrl" => "0-1f 7f"
    | "digit" => "30-39"
    | "graph" => "21-7e"
    | "lower" => "61-7a"
    | "print" => "20-7e"
    | "punct" => "21-2f 3a-40 5b-60 7b-7e"
    | "space" => "9-d 20"
    | "upper" => "41-5a"
    | "word" => "30-39 41-5a 5f 61-7a"
    | _ => "30-39 41-46 61-66"

namespace LetterClass

/-- The characters of a class with a letter of its own, in all of Unicode or in ASCII. -/
def ranges (unicode : Bool) : LetterClass → Ranges
  | digit => if unicode then digits else asciiClass "digit"
  | space => if unicode then spaces else asciiClass "space"
  | word => if unicode then wordChars else asciiClass "word"

end LetterClass

/-- Letters of ASCII with the letters of the other case. -/
def foldAscii (r : Ranges) : Ranges :=
  let shifted := r.bounds.toList.flatMap fun (l, h) =>
    let upper := (max l 0x41, min h 0x5a)
    let lower := (max l 0x61, min h 0x7a)
    (if upper.1 ≤ upper.2 then [(upper.1 + 32, upper.2 + 32)] else []) ++
      if lower.1 ≤ lower.2 then [(lower.1 - 32, lower.2 - 32)] else []
  .ofBounds (r.bounds.toList ++ shifted)

end DocQuery.Regex
