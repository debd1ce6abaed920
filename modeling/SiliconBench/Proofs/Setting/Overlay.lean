import SiliconBench.Proofs.Answer
import SiliconBench.Proofs.Setting.Distinct
import SiliconBench.Value.Fields
import Mathlib.Data.List.Forall2

/-!
# Overlay — a table of settings over another

What a settings file says of a part of the settings is laid over what holds when
nothing is said (`overlaid`): field by field, at any depth. That loses nothing
where the file FITS the settings, which is to say that it has no key that they do
not have and a table wherever they have one.
-/

namespace SiliconBench.Value

mutual

/-- A value laid over another. What is given for a field takes its place; of two
tables the fields are laid over each other one by one. -/
def overlaid : Value → Value → Value
  | .table bs, .table gs => .table (overlaidEntries bs gs)
  | _, given => given

def overlaidEntries : List (String × Value) → List (String × Value) → List (String × Value)
  | [], _ => []
  | (key, b) :: rest, gs =>
    let field := match gs.lookup key with
      | some given => overlaid b given
      | none => b
    (key, field) :: overlaidEntries rest gs

end

mutual

/-- Whether a value can be laid over another without a loss: no table has a key
that the other has not, and there is a table wherever the other has one. -/
def fits : Value → Value → Bool
  | .table bs, .table gs => fitsEntries bs gs
  | .table _, _ => false
  | _, _ => true

def fitsEntries (bs : List (String × Value)) : List (String × Value) → Bool
  | [] => true
  | (key, given) :: rest =>
    (match bs.lookup key with
      | some b => fits b given
      | none => false) && fitsEntries bs rest

end

/-- What comes out where a value is laid over another without a loss. -/
def LaidOver (base given got : Value) : Prop :=
  base.fits given = true ∧ got = base.overlaid given

/-- A table with the entry under one key changed. -/
def mapEntry (key : String) (f : Value → Value) : Value → Value
  | .table entries => .table (entries.map fun (k, v) => (k, if k = key then f v else v))
  | v => v

/-! ## Fields -/

section Fields

variable {part key : String} {known : List String} {v w : Value} {bs es : List (String × Value)}

theorem tableEntries_eq_ok : tableEntries part v = .ok es ↔ v = .table es := by
  cases v <;> simp [tableEntries, refuse]

theorem unknownKeys_eq_nil : unknownKeys known es = [] ↔ ∀ e ∈ es, e.1 ∈ known := by
  simp [unknownKeys, List.filter_eq_nil_iff]

theorem knownEntries_eq_ok :
    knownEntries part known v = .ok es ↔ v = .table es ∧ unknownKeys known es = [] := by
  simp only [knownEntries, bind_eq_ok, tableEntries_eq_ok]
  constructor
  · rintro ⟨es', rfl, h⟩
    split at h
    case isTrue hnone =>
      cases h
      exact ⟨rfl, List.isEmpty_iff.mp hnone⟩
    case isFalse => cases h
  · rintro ⟨rfl, hnone⟩
    exact ⟨es, rfl, by simp [hnone]⟩

/-- A part of the settings that is read field by field and then checked. -/
theorem checkedPart_eq_ok {β : Type} {build : List (String × Value) → β}
    {check : β → Result Value Unit} {x : β} :
    (do let es ← knownEntries part known v; check (build es); return build es) = .ok x ↔
      ∃ es, v = .table es ∧ unknownKeys known es = [] ∧ check (build es) = .ok () ∧
        x = build es := by
  simp only [bind_eq_ok, knownEntries_eq_ok, and_assoc]
  constructor
  · rintro ⟨es, hv, hkeys, u, hcheck, hx⟩
    cases hx
    exact ⟨es, hv, hkeys, hcheck, rfl⟩
  · rintro ⟨es, hv, hkeys, hcheck, rfl⟩
    exact ⟨es, hv, hkeys, (), hcheck, rfl⟩

theorem fitsEntries_iff : fitsEntries bs es = true ↔
    ∀ e ∈ es, ∃ b, bs.lookup e.1 = some b ∧ fits b e.2 = true := by
  induction es with
  | nil => simp [fitsEntries]
  | cons e rest ih =>
    rw [fitsEntries, Bool.and_eq_true, ih, List.forall_mem_cons]
    cases bs.lookup e.1 <;> simp

/-- A value that is no table: one that is set as a whole. -/
def isLeaf : Value → Bool
  | .table _ => false
  | _ => true

theorem overlaid_leaf (h : v.isLeaf = true) : v.overlaid w = w := by
  cases v with
  | table => cases h
  | null | bool | whole | real | text | list => simp [overlaid]

theorem fits_leaf (h : v.isLeaf = true) : v.fits w = true := by
  cases v with
  | table => cases h
  | null | bool | whole | real | text | list => simp [fits]

theorem LaidOver.leaf (h : v.isLeaf = true) : LaidOver v w w :=
  ⟨fits_leaf h, (overlaid_leaf h).symm⟩

/-- One field of a table laid over another: what is given for it, laid over what is
there, or what is there. -/
def FieldLaidOver (es : List (String × Value)) (b w : String × Value) : Prop :=
  b.1 = w.1 ∧
    match es.lookup b.1 with
    | some given => LaidOver b.2 given w.2
    | none => w.2 = b.2

theorem FieldLaidOver.leaf (h : v.isLeaf = true) :
    FieldLaidOver es (key, v) (key, entryOr es key v) := by
  refine ⟨rfl, ?_⟩
  cases hkey : es.lookup key with
  | none => simp [entryOr, hkey]
  | some given => simpa [entryOr, hkey] using LaidOver.leaf h

theorem fieldLaidOver_of_mem {ws : List (String × Value)} {b : String × Value}
    (h : List.Forall₂ (FieldLaidOver es) bs ws) (hb : b ∈ bs) : ∃ w, FieldLaidOver es b w := by
  induction h with
  | nil => cases hb
  | cons hfield _ ih =>
    rcases List.mem_cons.mp hb with rfl | hrest
    · exact ⟨_, hfield⟩
    · exact ih hrest

theorem overlaidEntries_of_fields {ws : List (String × Value)}
    (h : List.Forall₂ (FieldLaidOver es) bs ws) : overlaidEntries bs es = ws := by
  induction h with
  | nil => rfl
  | @cons b w _ _ hfield _ ih =>
    obtain ⟨key, _⟩ := b
    obtain ⟨_, _⟩ := w
    obtain ⟨hsame, hfield⟩ := hfield
    cases hsame
    rw [overlaidEntries, ih]
    cases hkey : es.lookup key with
    | none =>
      simp only [hkey] at hfield
      rw [hfield]
    | some given =>
      simp only [hkey] at hfield
      rw [hfield.2]

/-- Tables are laid over each other field by field. -/
theorem LaidOver.table {ws : List (String × Value)} (hd : (es.map Prod.fst).Nodup)
    (hkeys : unknownKeys (bs.map Prod.fst) es = []) (h : List.Forall₂ (FieldLaidOver es) bs ws) :
    LaidOver (.table bs) (.table es) (.table ws) := by
  constructor
  · rw [fits, fitsEntries_iff]
    rintro ⟨key, given⟩ he
    cases hkey : bs.lookup key with
    | some b =>
      obtain ⟨w, -, hfield⟩ := fieldLaidOver_of_mem h (mem_of_lookup hkey)
      rw [lookup_of_mem hd he] at hfield
      exact ⟨b, rfl, hfield.1⟩
    | none =>
      -- the key is known, so some field of the base has it
      obtain ⟨b, hb, hsame⟩ := List.mem_map.mp (unknownKeys_eq_nil.mp hkeys _ he)
      have := List.lookup_eq_none_iff.mp hkey b hb
      simp [hsame] at this
  · rw [overlaid, overlaidEntries_of_fields h]

/-- Where every field is set as a whole, each is what is given for it, or stays. -/
theorem LaidOver.leaves (hd : (es.map Prod.fst).Nodup)
    (hkeys : unknownKeys (bs.map Prod.fst) es = []) (h : bs.all (fun b => b.2.isLeaf) = true) :
    LaidOver (.table bs) (.table es) (.table (bs.map fun (k, b) => (k, entryOr es k b))) := by
  refine .table hd hkeys ?_
  clear hkeys
  induction bs with
  | nil => exact .nil
  | cons b rest ih =>
    rw [List.all_cons, Bool.and_eq_true] at h
    exact .cons (.leaf h.1) (ih h.2)

end Fields

/-! ## Paths -/

/-- What stands at the end of a path of keys. -/
def at? : List String → Value → Option Value
  | [], v => some v
  | key :: path, v => (v.field? key).bind (at? path)

end SiliconBench.Value
