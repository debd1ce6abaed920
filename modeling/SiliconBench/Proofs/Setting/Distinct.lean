import SiliconBench.Value.Reader

/-!
# Distinct — the keys of a table that was read

A table is a list of entries, and nothing keeps two of them from having one key.
A reader never makes such a table: a key that comes twice is written over
(`ofJson_distinct`). In a table of distinct keys an entry is what is found under
its key.
-/

namespace SiliconBench.Value

mutual

/-- The keys of every table in a value are distinct. -/
def Distinct : Value → Prop
  | .list items => DistinctItems items
  | .table entries => (entries.map Prod.fst).Nodup ∧ DistinctEntries entries
  | _ => True

def DistinctItems : List Value → Prop
  | [] => True
  | v :: rest => Distinct v ∧ DistinctItems rest

def DistinctEntries : List (String × Value) → Prop
  | [] => True
  | (_, v) :: rest => Distinct v ∧ DistinctEntries rest

end

/-! ## Entries -/

section Entries

variable {key : String} {v : Value} {es : List (String × Value)}

theorem lookup_of_mem (hd : (es.map Prod.fst).Nodup) (h : (key, v) ∈ es) :
    es.lookup key = some v := by
  induction es with
  | nil => cases h
  | cons e rest ih =>
    obtain ⟨k, w⟩ := e
    rw [List.map_cons, List.nodup_cons] at hd
    rcases List.mem_cons.mp h with heq | hrest
    · cases heq
      exact List.lookup_cons_self
    · have hk : key ≠ k := by
        rintro rfl
        exact hd.1 (List.mem_map.mpr ⟨_, hrest, rfl⟩)
      rw [List.lookup_cons, beq_false_of_ne hk]
      exact ih hd.2 hrest

theorem mem_of_lookup {β : Type} {x : β} {xs : List (String × β)} (h : xs.lookup key = some x) :
    (key, x) ∈ xs := by
  induction xs with
  | nil => cases h
  | cons e rest ih =>
    obtain ⟨k, w⟩ := e
    rw [List.lookup_cons] at h
    by_cases hk : key = k
    · subst hk
      rw [beq_self_eq_true] at h
      cases h
      exact List.mem_cons_self
    · rw [beq_false_of_ne hk] at h
      exact List.mem_cons_of_mem _ (ih h)

theorem distinct_of_lookup (hd : DistinctEntries es) (h : es.lookup key = some v) : v.Distinct := by
  induction es with
  | nil => cases h
  | cons e rest ih =>
    rw [List.lookup_cons] at h
    split at h
    · cases h
      exact hd.1
    · exact ih hd.2 h

end Entries

/-! ## Writing an entry -/

theorem mem_keys_putEntry {key k : String} {v : Value} {es : List (String × Value)}
    (h : k ∈ (putEntry key v es).map Prod.fst) : k = key ∨ k ∈ es.map Prod.fst := by
  induction es with
  | nil => exact .inl (List.mem_singleton.mp h)
  | cons e rest ih =>
    rw [putEntry] at h
    split at h
    · exact .inr h
    · rcases List.mem_cons.mp h with rfl | hrest
      · exact .inr List.mem_cons_self
      · exact (ih hrest).imp_right (List.mem_cons_of_mem _)

/-- A key that is not there is written at the end. -/
theorem putEntry_of_lookup {key : String} {es : List (String × Value)}
    (h : es.lookup key = none) (v : Value) : putEntry key v es = es ++ [(key, v)] := by
  induction es with
  | nil => rfl
  | cons e rest ih =>
    obtain ⟨k, w⟩ := e
    rw [List.lookup_cons] at h
    split at h
    · cases h
    case h_2 hne =>
      have hk : k ≠ key := by
        rintro rfl
        simp at hne
      rw [putEntry, if_neg hk, ih h, List.cons_append]

/-- Writing an entry leaves the keys of a table distinct. -/
theorem distinct_putEntry (key : String) {v : Value} {es : List (String × Value)}
    (hv : v.Distinct) (hes : (Value.table es).Distinct) :
    (Value.table (putEntry key v es)).Distinct := by
  obtain ⟨hkeys, hentries⟩ := hes
  induction es with
  | nil => exact ⟨List.nodup_cons.mpr ⟨List.not_mem_nil, List.nodup_nil⟩, hv, trivial⟩
  | cons e rest ih =>
    rw [List.map_cons, List.nodup_cons] at hkeys
    obtain ⟨hrestKeys, hrest⟩ := ih hkeys.2 hentries.2
    rw [putEntry]
    split
    case isTrue hk =>
      exact ⟨List.nodup_cons.mpr hkeys, hv, hentries.2⟩
    case isFalse hk =>
      refine ⟨List.nodup_cons.mpr ⟨fun hmem => ?_, hrestKeys⟩, hentries.1, hrest⟩
      exact (mem_keys_putEntry hmem).elim hk hkeys.1

/-! ## Reading -/

theorem distinctItems_iff {vs : List Value} : DistinctItems vs ↔ ∀ v ∈ vs, v.Distinct := by
  induction vs with
  | nil => simp [DistinctItems]
  | cons v rest ih => rw [DistinctItems, ih, List.forall_mem_cons]

theorem readNumber_distinct {c after : Cursor} {v : Value} (h : readNumber c = .ok (v, after)) :
    v.Distinct := by
  simp only [readNumber] at h
  split at h
  · cases h
  · split at h
    · split at h
      · cases h
      · cases h
        trivial
    · cases h
      trivial

theorem readAtom_distinct {c after : Cursor} {v : Value} (h : readAtom c = .ok (v, after)) :
    v.Distinct := by
  rw [readAtom] at h
  split at h
  case h_1 w v' hfind =>
    cases h
    have := List.mem_of_find?_eq_some hfind
    simp only [words, List.mem_cons, Prod.mk.injEq, List.not_mem_nil, or_false] at this
    rcases this with ⟨-, rfl⟩ | ⟨-, rfl⟩ | ⟨-, rfl⟩ | ⟨-, rfl⟩ | ⟨-, rfl⟩ | ⟨-, rfl⟩ <;> trivial
  · exact readNumber_distinct h

/-- Whatever the reader reads has distinct keys, if what it has read so far does. The
induction is on the fuel, which every step into a value uses up. -/
theorem reads_distinct (fuel : Nat) :
    (∀ c v after, readValue fuel c = .ok (v, after) → v.Distinct) ∧
    (∀ c done v after, DistinctItems done → readItems fuel c done = .ok (v, after) → v.Distinct) ∧
    (∀ c done v after, (Value.table done).Distinct →
      readEntries fuel c done = .ok (v, after) → v.Distinct) := by
  induction fuel with
  | zero =>
    refine ⟨fun c v after h => ?_, fun c done v after _ h => ?_, fun c done v after _ h => ?_⟩
    · cases h
    · cases h
    · cases h
  | succ fuel ih =>
    obtain ⟨hvalue, hitems, hentries⟩ := ih
    refine ⟨fun c v after h => ?_, fun c done v after hdone h => ?_,
      fun c done v after hdone h => ?_⟩
    · rw [readValue] at h
      split at h
      · cases h
      · split at h
        · cases h
          trivial
        · cases h
      · simp only at h
        split at h
        · cases h
          trivial
        · exact hitems _ [] _ _ trivial h
      · simp only at h
        split at h
        · cases h
          exact ⟨List.nodup_nil, trivial⟩
        · exact hentries _ [] _ _ ⟨List.nodup_nil, trivial⟩ h
      · exact readAtom_distinct h
    · rw [readItems] at h
      split at h
      · cases h
      case h_2 w rest hread =>
        have hw := hvalue _ _ _ hread
        have hall : DistinctItems (w :: done) := ⟨hw, hdone⟩
        simp only at h
        split at h
        · cases h
          -- the items were collected backwards
          rw [Distinct, distinctItems_iff]
          intro x hx
          exact distinctItems_iff.mp hall x (List.mem_reverse.mp hx)
        · exact hitems _ _ _ _ hall h
        · cases h
    · rw [readEntries] at h
      split at h
      · cases h
      · split at h
        · cases h
        case h_2 key rest hkey =>
          simp only at h
          split at h
          · cases h
          · split at h
            · cases h
            case h_2 w rest hread =>
              -- a key that comes again is written over, so it stays the only one
              have hall := distinct_putEntry key (hvalue _ _ _ hread) hdone
              split at h
              · cases h
                exact hall
              · exact hentries _ _ _ _ hall h
              · cases h

/-- The keys of every table that a text holds are distinct. -/
theorem ofJson_distinct {s : String} {v : Value} (h : ofJson s = .ok v) : v.Distinct := by
  simp only [ofJson] at h
  split at h
  · cases h
  · split at h
    · cases h
    case h_2 w after hread =>
      split at h
      · cases h
        exact (reads_distinct _).1 _ _ _ hread
      · cases h

end SiliconBench.Value
