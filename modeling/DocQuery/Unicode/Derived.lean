import DocQuery.Unicode.Category
import DocQuery.Unicode.Property
/-! Properties that follow from general categories and from other properties, as the standard
derives them. -/

namespace DocQuery.Unicode

/-- The code points of general categories and of properties that are given by themselves. -/
def setOf (categoryNames propertyNames : List String) : Ranges :=
  (categories.union categoryNames).union (properties.union propertyNames)

/-- Code points that are assigned, surrogates included. -/
def assigned : Ranges :=
  (categories.union (categories.filterMap (·.names.head?))).union (.ofPair 0xd800 0xdfff)

/-- Lower case. -/
def lowercase : Ranges := setOf ["ll"] ["olower"]

/-- Upper case. -/
def uppercase : Ranges := setOf ["lu"] ["oupper"]

/-- Letters and what belongs to letters. -/
def alphabetic : Ranges :=
  (setOf ["lt", "lm", "lo", "nl"] ["oalpha"]).union (lowercase.union uppercase)

/-- Code points that extend the one before them. -/
def graphemeExtend : Ranges := setOf ["mn", "me"] ["ogrext"]

/-- Code points that a display leaves out if it does not know them. -/
def ignorable : Ranges :=
  (setOf ["cf"] ["odi", "vs"]).diff
    ((properties.union ["wspace", "pcm"]).union (.ofText "fff9-fffb 13430-13440"))

/-- Code points that start an identifier. -/
def identifierStart : Ranges :=
  (setOf ["lu", "ll", "lt", "lm", "lo", "nl"] ["oids"]).diff (properties.union ["patsyn", "patws"])

/-- Code points of identifiers. -/
def identifierPart : Ranges :=
  (identifierStart.union (setOf ["mn", "mc", "nd", "pc"] ["oidc"])).diff
    (properties.union ["patsyn", "patws"])

/-- Parts of identifiers that normal forms would take out of them. -/
def unstablePart : Ranges :=
  .ofText "37a 309b-309c fc5e-fc63 fdfa-fdfb fe70 fe72 fe74 fe76 fe78 fe7a fe7c fe7e"

/-- Starts of identifiers that normal forms would make a later part. -/
def unstableStart : Ranges := unstablePart.union (.ofText "e33 eb3 ff9e-ff9f")

/-- Capitals that have no small letter. -/
def capitalsAlone : Ranges := .ofText
   "3d2-3d4 2102 2107 210b-210d 2110-2112 2115 2119-211d 2124 2128 212c-212d 2130-2131 2133
    213e-213f 2145 1d400-1d419 1d434-1d44d 1d468-1d481 1d49c 1d49e-1d49f 1d4a2 1d4a5-1d4a6
    1d4a9-1d4ac 1d4ae-1d4b5 1d4d0-1d4e9 1d504-1d505 1d507-1d50a 1d50d-1d514 1d516-1d51c
    1d538-1d539 1d53b-1d53e 1d540-1d544 1d546 1d54a-1d550 1d56c-1d585 1d5a0-1d5b9 1d5d4-1d5ed
    1d608-1d621 1d63c-1d655 1d670-1d689 1d6a8-1d6c0 1d6e2-1d6fa 1d71c-1d734 1d756-1d76e
    1d790-1d7a8 1d7ca 1f130-1f149 1f150-1f169 1f170-1f189"

/-- Small letters that have no capital. -/
def smallAlone : Ranges := .ofText
   "aa ba 138 18d 1aa-1ab 1ba 1be 221 234-239 255 258 25a 25d-25f 262 267 26d-26e 270 273-274
    276-27c 27e-27f 281 284-286 28d-291 293 295-29c 29f-2b8 2c0-2c1 2e0-2e4 37a 3fc 560 588 10fc
    1d00-1d78 1d7a-1d7c 1d7e-1d8d 1d8f-1dbf 1e9c-1e9d 1e9f 2071 207f 2090-209c 210a 210e-210f
    2113 212f 2134 2139 213c-213d 2146-2149 2c71 2c74 2c77-2c7d 2ce4 a69c-a69d a730-a731
    a770-a778 a78e a795 a7af a7d3 a7d5 a7f2-a7f4 a7f8-a7fa ab30-ab52 ab54-ab5a ab5c-ab69 10780
    10783-10785 10787-107b0 107b2-107ba 1d41a-1d433 1d44e-1d454 1d456-1d467 1d482-1d49b
    1d4b6-1d4b9 1d4bb 1d4bd-1d4c3 1d4c5-1d4cf 1d4ea-1d503 1d51e-1d537 1d552-1d56b 1d586-1d59f
    1d5ba-1d5d3 1d5ee-1d607 1d622-1d63b 1d656-1d66f 1d68a-1d6a5 1d6c2-1d6da 1d6dc-1d6e1
    1d6fc-1d714 1d716-1d71b 1d736-1d74e 1d750-1d755 1d770-1d788 1d78a-1d78f 1d7aa-1d7c2
    1d7c4-1d7c9 1d7cb 1df00-1df09 1df0b-1df1e 1df25-1df2a 1e030-1e06d"

/-- Pairs of letters of which the first is a capital, and letters with an iota below. -/
def titleLetters : Ranges :=
  .ofText "1c5 1c8 1cb 1f2 1f88-1f8f 1f98-1f9f 1fa8-1faf 1fbc 1fcc 1ffc"

/-- Code points that change where capitals are made small. -/
def loweredAway : Ranges := (uppercase.union (categories.union ["lt"])).diff capitalsAlone

/-- Code points that change where small letters are made capitals. -/
def raisedAway : Ranges := (lowercase.diff smallAlone).union titleLetters

/-- Code points that change at the start of a word in a title. -/
def titledAway : Ranges :=
  (raisedAway.diff (titleLetters.union (.ofText "10d0-10fa 10fd-10ff"))).union
    (.ofText "1c4 1c7 1ca 1f1")

/-- Code points that change where case is left out of account. -/
def foldedAway : Ranges :=
  (loweredAway.diff (.ofPair 0x13a0 0x13f5)).union <| .ofText
   "b5 df 149 17f 345 3c2 3d0-3d1 3d5-3d6 3f0-3f1 3f5 587 13f8-13fd 1c80-1c88 1e9a-1e9b 1f80-1f87
    1f90-1f97 1fa0-1fa7 1fb2-1fb4 1fb7 1fc2-1fc4 1fc7 1ff2-1ff4 1ff7 ab70-abbf fb00-fb06
    fb13-fb17"

/-- The set of a property that follows from others. -/
def derived? : (name : String) → Option Ranges
  | "alphabetic" | "alpha" => some alphabetic
  | "lowercase" | "lower" => some lowercase
  | "uppercase" | "upper" => some uppercase
  | "math" => some (setOf ["sm"] ["omath"])
  | "cased" => some ((categories.union ["lt"]).union (lowercase.union uppercase))
  | "caseignorable" | "ci" =>
    some ((categories.union ["mn", "me", "cf", "lm", "sk"]).union
      (.ofText "27 2e 3a b7 387 55f 5f4 2018-2019 2024 2027 fe13 fe52 fe55 ff07 ff0e ff1a"))
  | "changeswhencasefolded" | "cwcf" => some foldedAway
  | "changeswhencasemapped" | "cwcm" =>
    some (loweredAway.union (titledAway.union raisedAway))
  | "changeswhenlowercased" | "cwl" => some loweredAway
  | "changeswhentitlecased" | "cwt" => some titledAway
  | "changeswhenuppercased" | "cwu" => some raisedAway
  | "defaultignorablecodepoint" | "di" => some ignorable
  | "graphemebase" | "grbase" =>
    some (assigned.diff ((categories.union ["cc", "cf", "co", "zl", "zp"]).union
      (graphemeExtend.union (.ofPair 0xd800 0xdfff))))
  | "graphemeextend" | "grext" => some graphemeExtend
  | "idstart" | "ids" => some identifierStart
  | "idcontinue" | "idc" => some identifierPart
  | "xidstart" | "xids" => some (identifierStart.diff unstableStart)
  | "xidcontinue" | "xidc" => some (identifierPart.diff unstablePart)
  | _ => none

/-- The set of a property. -/
def property? (name : String) : Option Ranges := (properties.find? name).or (derived? name)

/-! ### Later editions -/

/-- Letters of any edition. -/
def everyLetter : Ranges :=
  alphabetic.union <| .ofText
   "88f c5c cdc a7ce-a7cf a7d2 a7d4 a7f1 10940-10959 10ec5-10ec7 10efa-10efb 11b60-11b67
    11db0-11ddb 16ea0-16eb8 16ebb-16ed3 16ff2-16ff6 187f8-187ff 18d09-18d1e 18d80-18df2
    1e6c0-1e6de 1e6e0-1e6f5 1e6fe-1e6ff 2b73a-2b73f 2cea2-2cead 323b0-33479"

/-- Numbers of any edition. -/
def everyNumber : Ranges :=
  (categories.union ["nd", "nl", "no"]).union (.ofText "11de0-11de9 16ff4-16ff6")

/-- Nonspacing and enclosing marks of any edition. -/
def everyNonspacing : Ranges :=
  (categories.union ["mn", "me"]).union <| .ofText
   "1acf-1add 1ae0-1aeb 10efa-10efb 11b60 11b62-11b64 11b66 1e6e3 1e6e6 1e6ee-1e6ef 1e6f5"

/-- Marks of any edition. -/
def everyMark : Ranges :=
  everyNonspacing.union ((categories.union ["mc"]).union (.ofText "11b61 11b65 11b67"))

end DocQuery.Unicode
