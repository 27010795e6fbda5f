import Mathlib.Data.List.Forall2
import RelationalQuery.Compile.Scope
import RelationalQuery.Proofs.Json.Documents
import RelationalQuery.Proofs.Text.Joined
import RelationalQuery.Spec.Read

/-! Declarations of scopes. An object of argument lists, an object of joined arguments and a list
of entries stand for the same calls, in the order of declaration. -/
namespace RelationalQuery

open Json (Value Document)

/-- A scope and arguments that every shape of a declaration can say: no separator is part of a
name or of an argument, and one empty argument is not told from none. -/
structure ScopeUse where
  name : String
  args : List String
  name_plain : ':' ∉ name.toList
  args_plain : ∀ arg ∈ args, ',' ∉ arg.toList
  args_ne_blank : args ≠ [""]

namespace ScopeUse

def call (u : ScopeUse) : String × List Value := (u.name, u.args.map .str)

def joined (u : ScopeUse) : String := ",".intercalate u.args

inductive Args (u : ScopeUse) : Value → Prop where
  | list : Args u (.arr (u.args.map .str))
  | joined : Args u (.str u.joined)

inductive Entry (u : ScopeUse) : String → Prop where
  | joined : Entry u (u.name ++ ":" ++ u.joined)
  | bare : u.args = [] → Entry u u.name

end ScopeUse

inductive Declares (uses : List ScopeUse) : Value → Prop where
  | named {fields : List (String × Value)} :
      List.Forall₂ (fun u field => field.1 = u.name ∧ u.Args field.2) uses fields →
      Declares uses (.obj fields)
  | listed {entries : List String} : List.Forall₂ ScopeUse.Entry uses entries →
      Declares uses (.arr (entries.map .str))

/-! ### Arguments -/

theorem ScopeUse.splitCsv_joined (u : ScopeUse) : splitCsv u.joined = u.args.map .str := by
  by_cases hnone : u.args = []
  · rw [joined, hnone]
    rfl
  · have hsplit : Text.split ',' u.joined = u.args :=
      Text.split_intercalate rfl hnone u.args_plain
    have hne : u.joined ≠ "" := by
      intro hempty
      rw [hempty] at hsplit
      exact u.args_ne_blank hsplit.symm
    rw [splitCsv, if_neg hne, hsplit]

theorem mapM_texts {β : Type} {f : Document → Except SpecFault β} {g : String → β}
    (h : ∀ text, f (.str text) = .ok (g text)) (texts : List String) :
    ((texts.map Value.str).map Value.document).mapM f = .ok (texts.map g) := by
  induction texts with
  | nil => rfl
  | cons text rest ih =>
    rw [List.map_cons, List.map_cons, List.mapM_cons, ih, Value.document, h]
    rfl

theorem ScopeUse.Args.read {u : ScopeUse} {v : Value} (h : u.Args v) :
    ∃ args, readScopeArgs v.document = .ok args ∧ args.values = u.args.map .str := by
  cases h with
  | list =>
    have hitems : ((u.args.map Value.str).map Value.document).mapM readValue =
        .ok (u.args.map .str) := mapM_texts (f := readValue) (fun _ => rfl) u.args
    refine ⟨.list (u.args.map .str), ?_, rfl⟩
    rw [Value.document, Value.itemDocuments_eq_map, readScopeArgs, hitems]
    rfl
  | joined => exact ⟨.csv u.joined, rfl, u.splitCsv_joined⟩

theorem ScopeUse.Entry.listedCall {u : ScopeUse} {entry : String} (h : u.Entry entry) :
    listedCall entry = u.call := by
  cases h with
  | joined =>
    rw [RelationalQuery.listedCall, Text.cut_append rfl u.name_plain]
    exact congrArg _ u.splitCsv_joined
  | bare hnone =>
    rw [RelationalQuery.listedCall, Text.cut_of_not_mem u.name_plain, call, hnone]
    rfl

/-! ### Declarations -/

def readScopeField (member : String × Document) : Except SpecFault (String × ScopeArgs) := do
  return (member.1, ← readScopeArgs member.2)

theorem readScopes_obj (members : List (String × Document)) :
    readScopes (.obj members) =
      members.mapM readScopeField >>= fun scopes => .ok (.named (Json.Fields.collapse scopes)) :=
  rfl

theorem readScopes_fields {uses : List ScopeUse} {fields : List (String × Value)}
    (h : List.Forall₂ (fun u field => field.1 = u.name ∧ u.Args field.2) uses fields) :
    ∃ scopes : List (String × ScopeArgs),
      (fields.map fun (name, v) => (name, v.document)).mapM readScopeField = .ok scopes ∧
      scopes.map Prod.fst = uses.map ScopeUse.name ∧
      scopes.map (fun (name, args) => (name, args.values)) = uses.map ScopeUse.call := by
  induction h with
  | nil => exact ⟨[], rfl, rfl, rfl⟩
  | @cons u field _ _ hfield _ ih =>
    obtain ⟨name, v⟩ := field
    obtain ⟨rfl, hv⟩ : name = u.name ∧ u.Args v := hfield
    obtain ⟨scopes, hread, hnames, hcalls⟩ := ih
    obtain ⟨args, hargs, hvalues⟩ := hv.read
    refine ⟨(u.name, args) :: scopes, ?_, ?_, ?_⟩
    · rw [List.map_cons, List.mapM_cons, hread, readScopeField, hargs]
      rfl
    · rw [List.map_cons, List.map_cons, hnames]
    · rw [List.map_cons, List.map_cons, hcalls, ScopeUse.call, ← hvalues]

theorem map_listedCall {uses : List ScopeUse} {entries : List String}
    (h : List.Forall₂ ScopeUse.Entry uses entries) :
    entries.map listedCall = uses.map ScopeUse.call := by
  induction h with
  | nil => rfl
  | cons hentry _ ih => rw [List.map_cons, List.map_cons, hentry.listedCall, ih]

theorem Declares.read {uses : List ScopeUse} {v : Value} (h : Declares uses v)
    (hnames : (uses.map ScopeUse.name).Nodup) :
    ∃ decl, readScopes v.document = .ok decl ∧ decl.calls = uses.map ScopeUse.call := by
  cases h with
  | @named fields hfields =>
    obtain ⟨scopes, hread, hkeys, hcalls⟩ := readScopes_fields hfields
    have hcollapse : Json.Fields.collapse scopes = scopes :=
      Json.Fields.collapse_of_nodup (hkeys ▸ hnames)
    refine ⟨.named scopes, ?_, hcalls⟩
    rw [Value.document, Value.fieldDocuments_eq_map, readScopes_obj, hread]
    exact congrArg (fun scopes => Except.ok (ScopeDecl.named scopes)) hcollapse
  | @listed entries hentries =>
    have hitems : ((entries.map Value.str).map Value.document).mapM readText = .ok entries := by
      simpa using mapM_texts (f := readText) (g := id) (fun _ => rfl) entries
    refine ⟨.listed entries, ?_, map_listedCall hentries⟩
    rw [Value.document, Value.itemDocuments_eq_map, readScopes, hitems]

/-- The section of a specification is read as it stands alone. -/
theorem readSpec_scopes {d : Document} {decl : ScopeDecl} (reading : Reading)
    (h : readScopes d = .ok decl) :
    readSpec reading (.obj [("scopes", d)]) = .ok { scopes := decl } := by
  have hslot : specShape.slot? "scopes" = some "scopes" := by decide
  have hsection : readScopes? d = .ok decl := by
    cases d with
    | null => cases h
    | _ => exact h
  rw [readSpec]
  simp [specKeyed, hslot, specMember, gather, hsection]
  rfl

/-- Whatever the shape of a declaration, it is read, alone or as the section of a specification,
and stands for the calls that are meant, in the order of declaration. -/
theorem calls_of_declares {uses : List ScopeUse} {v : Value}
    (hnames : (uses.map ScopeUse.name).Nodup) (h : Declares uses v) :
    ∃ decl, ScopeDecl.ofValue v = .ok decl ∧
      (∀ reading, readSpec reading (.obj [("scopes", v.document)]) = .ok { scopes := decl }) ∧
      decl.calls = uses.map ScopeUse.call := by
  obtain ⟨decl, hread, hcalls⟩ := h.read hnames
  exact ⟨decl, hread, fun reading => readSpec_scopes reading hread, hcalls⟩

def openingUses : List ScopeUse :=
  [⟨"active", [], by decide, by decide, by decide⟩,
   ⟨"between", ["09:00", "17:00"], by decide, by decide, by decide⟩,
   ⟨"tagged", ["", "eu", ""], by decide, by decide, by decide⟩]

def openingShapes : List Value :=
  [.obj [("active", .arr []), ("between", .arr [.str "09:00", .str "17:00"]),
     ("tagged", .arr [.str "", .str "eu", .str ""])],
   .obj [("active", .str ""), ("between", .str "09:00,17:00"), ("tagged", .str ",eu,")],
   .arr [.str "active", .str "between:09:00,17:00", .str "tagged:,eu,"]]

theorem declares_openingUses {v : Value} (h : v ∈ openingShapes) : Declares openingUses v := by
  simp only [openingShapes, List.mem_cons, List.not_mem_nil, or_false] at h
  obtain rfl | rfl | rfl := h
  · exact .named (.cons ⟨rfl, .list⟩ (.cons ⟨rfl, .list⟩ (.cons ⟨rfl, .list⟩ .nil)))
  · exact .named (.cons ⟨rfl, .joined⟩ (.cons ⟨rfl, .joined⟩ (.cons ⟨rfl, .joined⟩ .nil)))
  · have hentries : List.Forall₂ ScopeUse.Entry openingUses
        ["active", "between:09:00,17:00", "tagged:,eu,"] :=
      .cons (.bare rfl) (.cons .joined (.cons .joined .nil))
    exact .listed hentries

theorem calls_openingShapes :
    (openingUses.map ScopeUse.name).Nodup ∧
    ∀ v ∈ openingShapes, Declares openingUses v ∧
      ∃ decl, ScopeDecl.ofValue v = .ok decl ∧
        decl.calls = [("active", []), ("between", [.str "09:00", .str "17:00"]),
          ("tagged", [.str "", .str "eu", .str ""])] := by
  have hnames : (openingUses.map ScopeUse.name).Nodup := by decide
  refine ⟨hnames, ?_⟩
  intro v hv
  obtain ⟨decl, hread, -, hcalls⟩ := calls_of_declares hnames (declares_openingUses hv)
  exact ⟨declares_openingUses hv, decl, hread, hcalls⟩

end RelationalQuery
