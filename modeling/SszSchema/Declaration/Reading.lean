import SszSchema.TagList
import SszSchema.Declaration
import SszSchema.ModuleName

/-!
# Reading declarations

`SourceUnit.ofSource?` reads the records of a source file. A record is an exported class at the top
level that has fields or is marked as a data class; its fields are the exported names that are
annotated directly in its body. The annotation text stands beside the shape in `Annotated[...]`.
-/

namespace SszSchema

open Source (Expr Statement)

/-- The heads of shapes that carry annotation texts. -/
def annotatedHead : String := "Annotated"

/-- The head of shapes that are no fields. -/
def classVariableHead : String := "ClassVar"

/-- The mark of classes that are records even without fields. -/
def dataClassMark : String := "dataclass"

/-- The prefixes of field names that are left out unless others are given. -/
def defaultReservedPrefixes : List String := ["XXX_"]

namespace FieldDecl

/-- The annotation texts among the items beside a shape. -/
def tagTexts : List Expr → List (List Char)
  | [] => []
  | .constant (.text value _) :: rest =>
      let text := Text.stripWhile Text.isBlank value
      if text.isEmpty then tagTexts rest else text :: tagTexts rest
  | _ :: rest => tagTexts rest

/-- Divides an annotated shape into the shape and its annotation text. -/
def splitAnnotated (e : Expr) : Expr × String :=
  match e with
  | .subscript value index =>
      if value.lastName? = some annotatedHead then
        match index with
        | .tuple [] => (e, "")
        | .tuple (first :: rest) =>
            (TypeExpr.unquote first, String.ofList (Text.joinWith [' '] (tagTexts rest)))
        | first => (TypeExpr.unquote first, "")
      else (e, "")
  | _ => (e, "")

/-- Whether a name can be that of a field. -/
def isFieldName (reserved : List String) (name : String) : Bool :=
  isExported name && !reserved.any (Text.startsWith name)

/-- The field that a statement declares; the fuel bounds the depth of its shape. -/
def ofStatement? (fuel : Nat) (reserved : List String) : Statement → Option FieldDecl
  | .annotate (.name name) hint _ line =>
      if isFieldName reserved name then
        let e := TypeExpr.unquote hint
        if e.headName? = some classVariableHead then none
        else
          let (shape, tagText) := splitAnnotated e
          some ⟨name, TypeExpr.ofField fuel shape, shape.text, tagText, line⟩
      else none
  | _ => none

end FieldDecl

namespace RecordDecl

/-- Whether a decorator marks a data class. -/
def isDataClassMark : Expr → Bool
  | .call callee _ _ => callee.headName? = some dataClassMark
  | e => e.headName? = some dataClassMark

/-- The record that a statement declares. -/
def ofStatement? (fuel : Nat) (reserved : List String) (path : String) :
    Statement → Option RecordDecl
  | .record name _ _ decorators body line =>
      if isExported name then
        let fields := body.filterMap (FieldDecl.ofStatement? fuel reserved)
        if fields.isEmpty && !decorators.any isDataClassMark then none
        else some ⟨name, fields, path, line⟩
      else none
  | _ => none

end RecordDecl

namespace SourceUnit

/-- Reads the records of a source; none if it is no source of a module. -/
def ofSource? (source : String) (path : Path) (reserved : List String := defaultReservedPrefixes)
    (inPackage : Bool := false) : Option SourceUnit := do
  let statements ← Source.parseModule source
  let records := statements.filterMap
    (RecordDecl.ofStatement? (source.length + 2) reserved path.toString)
  return ⟨path, path.stem, inPackage, records⟩

end SourceUnit

end SszSchema
