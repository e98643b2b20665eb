import BridgeTypings.Emission

namespace BridgeTypings.Emission

structure ParameterOutline where
  name : String
  variadic : Bool
  type : String

inductive MemberOutline where
  | field (name type : String)
  | method (name : String) (parameters : List ParameterOutline) (returns : String)

structure DeclarationOutline where
  keyword : String
  name : String
  parents : List String
  implements : List String
  members : List MemberOutline

structure EntryOutline where
  name : String
  type : String

structure Outline where
  declarations : List DeclarationOutline
  entries : List EntryOutline

def parameterOutline (r : Renderer) (p : String × Parameter) : Except Error ParameterOutline := do
  return ⟨p.1, p.2.variadic, ← r.renderType p.2.type⟩

def memberOutline (r : Renderer) : String × Attribute → Except Error MemberOutline
  | (name, .field t) => do return .field name (← r.renderType t)
  | (name, .method m) => do
      let parameters ← m.parameters.entries.mapM (parameterOutline r)
      return .method name parameters (← r.render m.returns)

def retained (r : Renderer) (declarations : Declarations) (types : List TypeExpr) :
    Except Error (List String) := do
  return (← types.mapM r.renderType).filter declarations.contains

def declarationOutline (r : Renderer) (declarations : Declarations) (e : String × Declaration) :
    Except Error DeclarationOutline := do
  let parents ← retained r declarations e.2.extends?.toList
  let implements ← retained r declarations e.2.implements
  return ⟨e.2.kind.keyword, e.1, parents, implements, ← e.2.attributes.mapM (memberOutline r)⟩

def entryOutline (r : Renderer) (e : String × TypeExpr) : Except Error EntryOutline := do
  return ⟨e.1, ← r.renderType e.2⟩

def outline (r : Renderer) (declarations : Declarations) (entries : EntryPoints) :
    Except Error Outline := do
  let described ← declarations.entries.mapM (declarationOutline r declarations)
  return ⟨described, ← entries.entries.mapM (entryOutline r)⟩

def ParameterOutline.text (p : ParameterOutline) : String :=
  if p.variadic then "..." ++ p.name ++ ": " ++ p.type ++ "[]" else p.name ++ ": " ++ p.type

def MemberOutline.line : MemberOutline → String
  | .field name type => "  " ++ name ++ ": " ++ type ++ ";"
  | .method name parameters returns =>
      "  " ++ name ++ ("(" ++ ", ".intercalate (parameters.map ParameterOutline.text) ++ "): " ++
        returns) ++ ";"

def DeclarationOutline.lines (d : DeclarationOutline) : List String :=
  header d.keyword d.name d.parents d.implements :: d.members.map MemberOutline.line ++ ["\x7d"]

def EntryOutline.line (e : EntryOutline) : String :=
  "export var " ++ e.name ++ ": " ++ e.type ++ ";"

def Outline.lines (o : Outline) : List String :=
  o.declarations.flatMap DeclarationOutline.lines ++ o.entries.map EntryOutline.line

def Outline.text (o : Outline) : String :=
  String.join (o.lines.map (· ++ "\n"))

variable (r : Renderer) (declarations : Declarations)

theorem result_keptSupertype (t : TypeExpr) :
    (keptSupertype r declarations t).result =
      (r.renderType t).map (fun text => if declarations.contains text then some text else none) := by
  simp only [keptSupertype, Run.result_bind, Run.ofExcept]
  cases r.renderType t with
  | error e => rfl
  | ok text =>
      show Run.result (ite _ _ _) = _
      cases hkept : declarations.contains text with
      | true => simp [hkept, Except.map, pure]
      | false => simp [hkept, Except.map, Run.result_bind, Run.report, Except.bind, pure]

theorem result_keptSupertypes (types : List TypeExpr) :
    (keptSupertypes r declarations types).result = retained r declarations types := by
  induction types with
  | nil => rfl
  | cons t rest ih =>
      simp only [keptSupertypes, Run.result_bind, result_keptSupertype, ih, retained,
        List.mapM_cons]
      cases r.renderType t with
      | error e => rfl
      | ok text =>
          cases hkept : declarations.contains text <;> cases rest.mapM r.renderType <;>
            simp [Except.map, Except.bind, bind, pure, Except.pure, hkept]

theorem parameterTexts_eq (parameters : List (String × Parameter)) :
    parameterTexts r parameters =
      (parameters.mapM (parameterOutline r)).map (List.map ParameterOutline.text) := by
  induction parameters with
  | nil => rfl
  | cons p rest ih =>
      simp only [parameterTexts, parameterText, List.mapM_cons, parameterOutline, ih]
      cases r.renderType p.2.type with
      | error e => rfl
      | ok t => cases rest.mapM (parameterOutline r) <;> rfl

theorem attributeLine_eq (a : String × Attribute) :
    attributeLine r a.1 a.2 = (memberOutline r a).map MemberOutline.line := by
  obtain ⟨name, item⟩ := a
  cases item with
  | field t =>
      simp only [attributeLine, memberOutline]
      cases r.renderType t <;> rfl
  | method m =>
      simp only [attributeLine, signature, memberOutline, parameterTexts_eq]
      cases m.parameters.entries.mapM (parameterOutline r) with
      | error e => rfl
      | ok parameters => cases r.render m.returns <;> rfl

theorem attributeLines_eq (attributes : List (String × Attribute)) :
    attributeLines r attributes =
      (attributes.mapM (memberOutline r)).map (List.map MemberOutline.line) := by
  induction attributes with
  | nil => rfl
  | cons a rest ih =>
      simp only [attributeLines, attributeLine_eq, List.mapM_cons, ih]
      cases memberOutline r a with
      | error e => rfl
      | ok member => cases rest.mapM (memberOutline r) <;> rfl

theorem result_declarationLines (e : String × Declaration) :
    (declarationLines r declarations e.1 e.2).result =
      (declarationOutline r declarations e).map DeclarationOutline.lines := by
  simp only [declarationLines, Run.result_bind, result_keptSupertypes, declarationOutline,
    Run.ofExcept, attributeLines_eq]
  cases retained r declarations e.2.extends?.toList with
  | error _ => rfl
  | ok parents =>
      cases retained r declarations e.2.implements with
      | error _ => rfl
      | ok implements => cases e.2.attributes.mapM (memberOutline r) <;> rfl

theorem result_blocks (items : List (String × Declaration)) :
    (blocks r declarations items).result =
      (items.mapM (declarationOutline r declarations)).map
        (List.flatMap DeclarationOutline.lines) := by
  induction items with
  | nil => rfl
  | cons e rest ih =>
      simp only [blocks, Run.result_bind, result_declarationLines, ih, List.mapM_cons]
      cases declarationOutline r declarations e with
      | error _ => rfl
      | ok first => cases rest.mapM (declarationOutline r declarations) <;> rfl

theorem entryLines_eq (items : List (String × TypeExpr)) :
    entryLines r items = (items.mapM (entryOutline r)).map (List.map EntryOutline.line) := by
  induction items with
  | nil => rfl
  | cons e rest ih =>
      simp only [entryLines, List.mapM_cons, entryOutline, ih]
      cases r.renderType e.2 with
      | error _ => rfl
      | ok t => cases rest.mapM (entryOutline r) <;> rfl

theorem result_emit (entries : EntryPoints) :
    (emit r declarations entries).result = (outline r declarations entries).map Outline.text := by
  simp only [emit, Run.result_bind, result_blocks, Run.ofExcept, entryLines_eq, outline]
  cases declarations.entries.mapM (declarationOutline r declarations) with
  | error _ => rfl
  | ok described => cases entries.entries.mapM (entryOutline r) <;> rfl

end BridgeTypings.Emission
