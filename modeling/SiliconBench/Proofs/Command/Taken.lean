import Mathlib.Data.List.Nodup
import SiliconBench.Command.Options
import SiliconBench.Proofs.Setting.Distinct

/-!
# Taken — arguments that a command has taken

An argument is never taken for an option that the command does not have, and an option
never gets a value that it does not take. Both are kept from argument to argument, so in
the end whatever was given is a value that its option takes (`parse_takes`): a numeral,
where the option stands for a number.
-/

namespace SiliconBench.Command

/-- An argument that is an option is one of the command. -/
def Argument.Of (opts : List Opt) : Argument → Prop
  | .option o _ _ => o ∈ opts
  | .word _ | .separator | .stranger => True

/-- The options that an argument opens are options of the command. -/
structure Bundle.Of (opts : List Opt) (b : Bundle) : Prop where
  flags : ∀ o ∈ b.flags, o ∈ opts
  last : ∀ o attached, b.last = some (o, attached) → o ∈ opts

/-- A value was given for an option of the command that takes it. -/
def Takes (opts : List Opt) (e : String × String) : Prop :=
  ∃ o ∈ opts, o.key = e.1 ∧ o.accepts e.2 = true

variable {opts : List Opt}

/-! ## One argument -/

theorem mem_of_spelled? {cs : List Char} {o : Opt} (h : spelled? opts cs = some o) : o ∈ opts :=
  List.mem_of_find?_eq_some h

theorem mem_of_beginning {cs : List Char} {o : Opt} (h : o ∈ beginning opts cs) : o ∈ opts := by
  obtain ⟨o', ho', h⟩ := List.mem_flatMap.mp h
  obtain ⟨-, -, rfl⟩ := List.mem_map.mp h
  exact ho'

theorem unspelled_of (body : List Char) : (unspelled body).Of opts := by
  simp only [unspelled]
  split <;> trivial

theorem abbreviated_of {c : Char} {rest : List Char} {a : Argument}
    (h : abbreviated opts c rest = some a) : a.Of opts := by
  simp only [abbreviated] at h
  split at h
  · split at h
    case h_1 =>
      cases h
      exact unspelled_of _
    case h_2 o hbeginning =>
      cases h
      exact mem_of_beginning (hbeginning ▸ List.mem_singleton_self o)
    case h_3 => cases h
  · split at h
    case h_1 o hspelled =>
      cases h
      exact mem_of_spelled? hspelled
    case h_2 =>
      cases h
      exact unspelled_of _

theorem classify_of {s : String} {a : Argument} (h : classify opts s = some a) : a.Of opts := by
  rw [classify] at h
  split at h
  · split at h
    case h_1 o hspelled =>
      cases h
      exact mem_of_spelled? hspelled
    case h_2 =>
      simp only at h
      split at h
      case h_1 o hspelled =>
        cases h
        exact mem_of_spelled? hspelled
      case h_2 => exact abbreviated_of h
  · cases h
    trivial

theorem classifyAll_of {args : List String} {classified : List Argument}
    (h : classifyAll opts args = some classified) : ∀ a ∈ classified, a.Of opts := by
  induction args generalizing classified with
  | nil =>
    cases h
    exact fun _ ha => absurd ha List.not_mem_nil
  | cons s rest ih =>
    rw [classifyAll] at h
    split at h
    · cases h
      rw [List.forall_mem_cons]
      refine ⟨trivial, fun a ha => ?_⟩
      obtain ⟨w, -, rfl⟩ := List.mem_map.mp ha
      trivial
    · obtain ⟨a, ha, h⟩ := Option.bind_eq_some_iff.mp h
      obtain ⟨more, hmore, h⟩ := Option.bind_eq_some_iff.mp h
      cases h
      exact List.forall_mem_cons.mpr ⟨classify_of ha, ih hmore⟩

/-- Letters that are run together are all letters of options of the command. -/
theorem unbundle_of {o : Opt} {isAssigned : Bool} {cs : List Char} {flags : List Opt} {b : Bundle}
    (ho : o ∈ opts) (hflags : ∀ f ∈ flags, f ∈ opts)
    (h : unbundle opts o isAssigned cs flags = some b) : b.Of opts := by
  have hreverse {fs : List Opt} (hfs : ∀ f ∈ fs, f ∈ opts) : ∀ f ∈ fs.reverse, f ∈ opts :=
    fun f hf => hfs f (List.mem_reverse.mp hf)
  fun_induction unbundle opts o isAssigned cs flags with
  | case1 => cases h
  | case2 => cases h
  | case3 =>
    cases h
    exact ⟨hreverse (List.forall_mem_cons.mpr ⟨ho, hflags⟩), fun _ _ hlast => by cases hlast⟩
  | case4 _ _ _ _ _ _ _ hnext =>
    cases h
    refine ⟨hreverse (List.forall_mem_cons.mpr ⟨ho, hflags⟩), fun _ _ hlast => ?_⟩
    cases hlast
    exact mem_of_spelled? hnext
  | case5 _ _ _ _ _ _ _ _ hnext ih =>
    exact ih (mem_of_spelled? hnext) (List.forall_mem_cons.mpr ⟨ho, hflags⟩) h
  | case6 _ _ _ _ _ _ _ _ _ _ hnext ih =>
    exact ih (mem_of_spelled? hnext) (List.forall_mem_cons.mpr ⟨ho, hflags⟩) h
  | case7 =>
    cases h
    refine ⟨hreverse hflags, fun _ _ hlast => ?_⟩
    cases hlast
    exact ho

theorem opened_of {o : Opt} {isLong : Bool} {attached : Option Attached} {b : Bundle}
    (ho : o ∈ opts) (h : opened opts o isLong attached = some b) : b.Of opts := by
  -- an option that is not run together with others is opened alone
  have halone (cs : Option (List Char)) : Bundle.Of opts ⟨[], some (o, cs)⟩ := by
    refine ⟨fun f hf => absurd hf List.not_mem_nil, fun _ _ hlast => ?_⟩
    cases hlast
    exact ho
  unfold opened at h
  split at h
  · cases h
    exact halone _
  · split at h
    · cases h
    · exact unbundle_of ho (fun f hf => absurd hf List.not_mem_nil) h
  · cases h
    exact halone _

/-- What is left after the value of an option was there before. -/
theorem valueOf_subset {o : Opt} {attached : Option (List Char)} {rest after : List Argument}
    {s : String} (h : valueOf o attached rest = some (s, after)) : after ⊆ rest := by
  unfold valueOf at h
  split at h
  · cases h
    exact List.Subset.refl _
  · cases h
    exact List.Subset.refl _
  · cases h
    exact List.subset_cons_self _ _
  · cases h
    exact List.Subset.refl _
  · cases h

/-! ## All arguments -/

/-- Where arguments are accepted, whatever was given is a value that its option takes. -/
def Parsed.Of (opts : List Opt) : Parsed → Prop
  | .accepted g => ∀ e ∈ g, Takes opts e
  | .rejected | .help => True

/-- Options are taken with values that they take, or not at all. -/
theorem takes_of_take {taken : List (Opt × String)} {given g : List (String × String)}
    (htaken : ∀ p ∈ taken, p.1 ∈ opts) (hgiven : ∀ e ∈ given, Takes opts e)
    (h : take taken given = .ok g) : ∀ e ∈ g, Takes opts e := by
  induction taken generalizing given with
  | nil =>
    cases h
    exact hgiven
  | cons p rest ih =>
    obtain ⟨o, value⟩ := p
    rw [List.forall_mem_cons] at htaken
    rw [take] at h
    split at h
    case isTrue => cases h
    case isFalse haccepts =>
      split at h
      case isTrue => cases h
      case isFalse =>
        split at h
        case isTrue => cases h
        case isFalse =>
          have htakes : Takes opts (o.key, value) := ⟨o, htaken.1, rfl, by simpa using haccepts⟩
          exact ih htaken.2 (List.forall_mem_cons.mpr ⟨htakes, hgiven⟩) h

/-- Options that are not taken are not accepted either. -/
theorem of_take_error {taken : List (Opt × String)} {given : List (String × String)}
    {parsed : Parsed} (h : take taken given = .error parsed) : parsed.Of opts := by
  induction taken generalizing given with
  | nil => cases h
  | cons p rest ih =>
    obtain ⟨o, value⟩ := p
    rw [take] at h
    split at h
    case isTrue =>
      cases h
      trivial
    case isFalse =>
      split at h
      case isTrue =>
        cases h
        trivial
      case isFalse =>
        split at h
        case isTrue =>
          cases h
          trivial
        case isFalse => exact ih h

/-- **What is kept from argument to argument**: every value that was given is one that its
option takes. -/
theorem parseFrom_of {args : List Argument} {tooMany : Bool} {given : List (String × String)}
    (hargs : ∀ a ∈ args, a.Of opts) (hgiven : ∀ e ∈ given, Takes opts e) :
    (parseFrom opts args tooMany given).Of opts := by
  have hflags {b : Bundle} (hb : b.Of opts) : ∀ p ∈ b.flags.map (fun f => (f, "")), p.1 ∈ opts :=
    List.forall_mem_map.mpr hb.flags
  fun_induction parseFrom opts args tooMany given with
  | case1 => trivial
  | case2 => exact fun e he => hgiven e (List.mem_reverse.mp he)
  | case3 => trivial
  | case4 _ _ _ _ _ _ _ _ _ htake => exact of_take_error htake
  | case5 _ _ _ _ _ _ _ hopened _ htake ih =>
    have hb := opened_of (List.forall_mem_cons.mp hargs).1 hopened
    exact ih (List.forall_mem_cons.mp hargs).2 (takes_of_take (hflags hb) hgiven htake)
  | case6 => trivial
  | case7 _ _ _ _ _ _ _ _ _ _ _ _ _ _ htake => exact of_take_error htake
  | case8 _ _ _ _ _ _ _ _ _ hopened _ _ hvalue _ htake _ ih =>
    have hb := opened_of (List.forall_mem_cons.mp hargs).1 hopened
    refine ih (fun a ha => (List.forall_mem_cons.mp hargs).2 a (valueOf_subset hvalue ha))
      (takes_of_take (List.forall_mem_append.mpr ⟨hflags hb, fun p hp => ?_⟩) hgiven htake)
    obtain rfl := List.mem_singleton.mp hp
    exact hb.last _ _ rfl
  | case9 _ _ _ _ _ ih => exact ih (List.forall_mem_cons.mp hargs).2 hgiven

/-- Arguments that a command accepts give its options nothing that these do not take. -/
theorem parse_takes {args : List String} {g : Given} (h : parse opts args = .accepted g) :
    ∀ e ∈ g, Takes opts e := by
  rw [parse] at h
  split at h
  case h_1 classified hclassified =>
    have hof : (parseFrom opts classified false []).Of opts :=
      parseFrom_of (classifyAll_of hclassified) fun e he => absurd he List.not_mem_nil
    rwa [h] at hof
  case h_2 => cases h

/-- What arguments come to, in a form that can be decided. -/
theorem eq_accepted {opts : List Opt} {args : List String} {g : Given}
    (h : (match parse opts args with
      | .accepted given => decide (given = g)
      | _ => false) = true) : parse opts args = .accepted g := by
  split at h
  case h_1 given hparse => rw [hparse, of_decide_eq_true h]
  case h_2 => cases h

/-- The last value of an option is one that the option takes. -/
theorem Given.accepts_of_last? {args : List String} {g : Given} {o : Opt} {value : String}
    (hkeys : (opts.map Opt.key).Nodup) (h : parse opts args = .accepted g) (ho : o ∈ opts)
    (hvalue : g.last? o.key = some value) : o.accepts value = true := by
  obtain ⟨o', ho', hkey, haccepts⟩ := parse_takes h (o.key, value)
    (List.mem_reverse.mp (Value.mem_of_lookup hvalue))
  -- keys are distinct, so the option that took the value is this one
  rwa [← List.inj_on_of_nodup_map hkeys ho' ho hkey]

end SiliconBench.Command
