import DocQuery.Expression.Field
/-! Writing an expression.  One field stands on a line, the fields of a block are indented by four
spaces, and a pipeline is written with `; ` between calls and `, ` between arguments. -/

namespace DocQuery

/-- A call as an expression writes it. -/
def Call.source (call : Call) : String :=
  call.name ++ "(" ++ ", ".intercalate (call.args.map fun a => "\"" ++ a ++ "\"") ++ ")"

/-- A field's name and pipeline. -/
def Field.source (field : Field) : String :=
  if field.pipeline.isEmpty then field.name
  else field.name ++ " `" ++ "; ".intercalate (field.pipeline.map Call.source) ++ "`"

/-- Brackets around the children of a field; scalars have none. -/
def FieldType.brackets : FieldType → Option (String × String)
  | text | number => none
  | object => some ("\x7b", "\x7d")
  | array => some ("[", "]")
  | objects => some ("[\x7b", "\x7d]")

/-- Indentation of the fields at a depth. -/
def indentation (depth : Nat) : String :=
  String.ofList (List.replicate (4 * depth) ' ')

/-- Fields with their blocks, each on lines of its own. -/
def fieldsSource (depth : Nat) : Forest Field → String
  | .nil => ""
  | .cons field children rest =>
    indentation depth ++ field.source ++
      (match field.type.brackets with
        | none => "\n"
        | some (opening, closing) =>
          " " ++ opening ++ "\n" ++ fieldsSource (depth + 1) children ++
            indentation depth ++ closing ++ "\n") ++
      fieldsSource depth rest

/-- The first tree of a forest by itself. -/
def Forest.firstOnly : Forest α → Forest α
  | .nil => .nil
  | .cons label children _ => .cons label children .nil

/-- A whole expression.  Of an expression without a block only the first field is written. -/
def Shape.source : Shape → Forest Field → String
  | object, fields => "\x7b\n" ++ fieldsSource 1 fields ++ "\x7d"
  | atom, fields => fieldsSource 0 fields.firstOnly

end DocQuery
