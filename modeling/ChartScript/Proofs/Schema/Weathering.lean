import ChartScript.Proofs.Data.Assoc
import ChartScript.Proofs.Host.Answer
import ChartScript.Proofs.Number.Special
import ChartScript.Proofs.Wire.Finite
/-!
# Checks of data that was made finite

What a check says of data that it accepted once the data has been made finite. A check of a text
or of an integer says the same. A number that was not finite is null then: where a number has to
be the check refuses it, and where none is needed there is none. So a list or a record is
refused for the first number that it lost, and keeps its other values if it lost none.
-/

namespace ChartScript.Schema

open scoped Relator

variable {ι α β γ δ : Type}

/-- The violation of a number that is null, at the end of a way. -/
def Violation.lost (path : List Step) : Violation := ⟨path, .floatType, .null⟩

/-- What is left of an accepted value: a related one if nothing was lost, and otherwise a refusal
whose first reason is the number that was lost. -/
def Survives (related : α → β → Prop) (a : α) (lost : Option (List Step)) (c : Checked β) : Prop :=
  match lost with
  | none => ∃ b, c = .valid b ∧ related a b
  | some path => ∃ more, c = .invalid (.lost path :: more)

/-- A check whose values, once what it checks has been thinned out, survive unless something is
lost. -/
def Weathers (thin : ι → ι) (check : ι → Checked α) (related : α → α → Prop)
    (lost : ι → Option (List Step)) : Prop :=
  ∀ w a, check w = .valid a → Survives related a (lost w) (check (thin w))

/-- Nothing is lost. -/
def nothingLost (_ : ι) : Option (List Step) := none

section Survival

variable {related : α → β → Prop} {a : α} {lost : Option (List Step)} {c : Checked β}

/-- A step in front of the way to a value is one in front of the way to the number it lost. -/
theorem Survives.under (h : Survives related a lost c) (step : Step) :
    Survives related a (lost.map (step :: ·)) (c.under step) := by
  cases lost with
  | none =>
    obtain ⟨b, rfl, hr⟩ := h
    exact ⟨b, rfl, hr⟩
  | some path =>
    obtain ⟨more, rfl⟩ := h
    exact ⟨_, rfl⟩

/-- What is made of a value that survives survives. -/
theorem Survives.map {f : α → γ} {g : β → δ} {image : γ → δ → Prop} (h : Survives related a lost c)
    (hfg : ∀ b, related a b → image (f a) (g b)) : Survives image (f a) lost (c.map g) := by
  cases lost with
  | none =>
    obtain ⟨b, rfl, hr⟩ := h
    exact ⟨g b, rfl, hfg b hr⟩
  | some path =>
    obtain ⟨more, rfl⟩ := h
    exact ⟨more, rfl⟩

/-- Of two values that are combined the first loss counts. -/
theorem Survives.ap {f : α → γ} {image : γ → δ → Prop} {first : Option (List Step)}
    {g : Checked (β → δ)} (hf : Survives (related ⇒ image) f first g) (ha : Survives related a lost c) :
    Survives image (f a) (first.or lost) (g.ap c) := by
  cases first with
  | none =>
    obtain ⟨k, rfl, hk⟩ := hf
    cases lost with
    | none =>
      obtain ⟨b, rfl, hb⟩ := ha
      exact ⟨k b, rfl, hk hb⟩
    | some path =>
      obtain ⟨more, rfl⟩ := ha
      exact ⟨more, rfl⟩
  | some path =>
    obtain ⟨more, rfl⟩ := hf
    cases lost with
    | none =>
      obtain ⟨b, rfl, -⟩ := ha
      exact ⟨more, rfl⟩
    | some second =>
      obtain ⟨others, rfl⟩ := ha
      exact ⟨_, rfl⟩

end Survival

section Combination

variable {thin : ι → ι} {read : ι → Checked α} {related : α → α → Prop}
  {lost first : ι → Option (List Step)}

/-- What is lost may be said in another way. -/
theorem Weathers.of_eq {lost' : ι → Option (List Step)} (h : Weathers thin read related lost)
    (heq : ∀ w, lost w = lost' w) : Weathers thin read related lost' :=
  fun w a ha => heq w ▸ h w a ha

/-- What is made of what was read survives. -/
theorem Weathers.map {image : β → β → Prop} (h : Weathers thin read related lost) (f : α → β)
    (himage : ∀ a b, related a b → image (f a) (f b)) :
    Weathers thin (fun w => f <$> read w) image lost := by
  intro w b hb
  obtain ⟨a, ha, rfl⟩ := Checked.map_eq_valid hb
  exact (h w a ha).map fun b => himage a b

/-- Of two things that are read the first loss counts. -/
theorem Weathers.ap {image : β → β → Prop} {make : ι → Checked (α → β)}
    (hf : Weathers thin make (related ⇒ image) first) (h : Weathers thin read related lost) :
    Weathers thin (fun w => make w <*> read w) image fun w => (first w).or (lost w) := by
  intro w b hb
  obtain ⟨f, a, hmake, hread, rfl⟩ := Checked.seq_eq_valid hb
  exact (hf w f hmake).ap (h w a hread)

end Combination

section Values

/-- An integer stays. -/
theorem weathers_integer : Weathers Wire.finite integer Eq nothingLost := by
  intro w n h
  refine ⟨n, ?_, rfl⟩
  cases w with
  | float x =>
    -- a number that is not finite is no integer
    have hx : x.isFinite = true := by
      cases hfinite : x.isFinite with
      | true => rfl
      | false =>
        unfold integer at h
        dsimp only at h
        rw [Number.Dyadic.ofFloat?_eq_none x hfinite] at h
        cases h
    rw [Wire.finite, if_pos hx, h]
  | list items => cases h
  | object fields => cases h
  | _ => exact h

/-- A text stays. -/
theorem weathers_text : Weathers Wire.finite text Eq nothingLost := by
  intro w s h
  cases w with
  | text t => exact ⟨s, h, rfl⟩
  | _ => cases h

/-- Named values stay, made finite. -/
theorem weathers_dict :
    Weathers Wire.finite dict (fun fields thinned => thinned = Wire.finiteFields fields) nothingLost := by
  intro w fields h
  cases w with
  | object found =>
    cases h
    exact ⟨_, rfl, rfl⟩
  | _ => cases h

/-- The way to the number that a value loses, if it is one that is not finite. -/
def lostNumber? : Wire → Option (List Step)
  | .float x => if x.isFinite then none else some []
  | _ => none

/-- A number stays if it is finite, and is refused otherwise. -/
theorem weathers_number : Weathers Wire.finite number Eq lostNumber? := by
  intro w x h
  cases w with
  | float y =>
    cases h
    unfold lostNumber? Wire.finite
    dsimp only
    by_cases hx : x.isFinite = true
    · rw [if_pos hx, if_pos hx]
      exact ⟨x, rfl, rfl⟩
    · rw [if_neg hx, if_neg hx]
      exact ⟨[], rfl⟩
  | list items => cases h
  | object fields => cases h
  | _ => exact ⟨x, h, rfl⟩

/-- A number that need not be there stays or, if it is not finite, is there no more. -/
def Fades (before after : Option Float) : Prop :=
  after = before ∨ after = none ∧ ∃ x, before = some x ∧ x.isFinite = false

/-- A number that need not be there is never refused. -/
theorem weathers_optionalNumber : Weathers Wire.finite (optional number) Fades nothingLost := by
  intro w x h
  cases w with
  | float y =>
    cases h
    unfold Wire.finite
    by_cases hy : y.isFinite = true
    · rw [if_pos hy]
      exact ⟨some y, rfl, Or.inl rfl⟩
    · rw [if_neg hy]
      exact ⟨none, rfl, Or.inr ⟨rfl, y, rfl, by simpa using hy⟩⟩
  | list items => cases h
  | object fields => cases h
  | _ => exact ⟨x, h, Or.inl rfl⟩

/-- A text that need not be there stays. -/
theorem weathers_optionalText : Weathers Wire.finite (optional text) Eq nothingLost := by
  intro w s h
  cases w with
  | null => exact ⟨s, h, rfl⟩
  | text t => exact ⟨s, h, rfl⟩
  | _ => cases h

/-- A further condition on a value that stays still holds. -/
theorem Weathers.ensuring {check : Check α} (h : Weathers Wire.finite check Eq nothingLost) (ok : α → Bool)
    (cause : Cause) : Weathers Wire.finite (ensuring check ok cause) Eq nothingLost := by
  intro w a ha
  unfold Schema.ensuring at ha ⊢
  cases hc : check w with
  | invalid vs =>
    rw [hc] at ha
    cases ha
  | valid b =>
    obtain ⟨c, hthin, rfl⟩ := h w b hc
    rw [hc] at ha
    unfold Checked.ensure at ha
    dsimp only at ha
    split at ha
    · rename_i hok
      cases ha
      refine ⟨_, ?_, rfl⟩
      rw [hthin]
      exact if_pos hok
    · cases ha

end Values

section Lists

variable {check : Check α} {related : α → α → Prop} {lost : Wire → Option (List Step)}

/-- The way to the first number that the items of a list lose, counted from an index on. -/
def lostItem? (lost : Wire → Option (List Step)) : Nat → List Wire → Option (List Step)
  | _, [] => none
  | i, w :: rest => ((lost w).map (.item i :: ·)).or (lostItem? lost (i + 1) rest)

/-- The items of a list survive one by one. -/
theorem Weathers.items (h : Weathers Wire.finite check related lost) (ws : List Wire) :
    ∀ (i : Nat) (as : List α), items check i ws = .valid as →
      Survives (List.Forall₂ related) as (lostItem? lost i ws) (items check i (Wire.finiteItems ws)) := by
  induction ws with
  | nil =>
    intro i as has
    cases has
    exact ⟨[], rfl, .nil⟩
  | cons w rest ih =>
    intro i as has
    have hparts : ((check w).under (.item i)).map List.cons <*> Schema.items check (i + 1) rest = .valid as :=
      has
    obtain ⟨f, more, hf, hmore, rfl⟩ := Checked.seq_eq_valid hparts
    have hitem : List.cons <$> (check w).under (.item i) = .valid f := hf
    obtain ⟨a, ha, rfl⟩ := Checked.map_eq_valid hitem
    have hchecked : check w = .valid a := by
      cases hc : check w with
      | valid b =>
        rw [hc] at ha
        exact ha
      | invalid vs =>
        rw [hc] at ha
        cases ha
    have hfirst : Survives (List.Forall₂ related ⇒ List.Forall₂ related) (List.cons a)
        ((lost w).map (.item i :: ·)) (((check w.finite).under (.item i)).map List.cons) :=
      ((h w a hchecked).under (.item i)).map fun b hb _ _ hbs => .cons hb hbs
    exact hfirst.ap (ih (i + 1) more hmore)

/-- A list is refused for the first number that one of its items lost. -/
theorem Weathers.listOf (h : Weathers Wire.finite check related lost) :
    Weathers Wire.finite (listOf check) (List.Forall₂ related)
      fun w => match w with | .list ws => lostItem? lost 0 ws | _ => none := by
  intro w as has
  cases w with
  | list ws => exact h.items ws 0 as has
  | _ => cases has

end Lists

section Records

/-- The object under check, made finite. -/
def Source.finite (o : Source) : Source := ⟨Wire.finiteFields o.fields⟩

/-- A field of fields that were made finite. -/
theorem get?_finiteFields (fields : List (String × Wire)) (name : String) :
    Assoc.get? (Wire.finiteFields fields) name = (Assoc.get? fields name).map Wire.finite := by
  induction fields with
  | nil => rfl
  | cons f rest ih =>
    obtain ⟨key, w⟩ := f
    rw [Wire.finiteFields, Assoc.get?_cons, Assoc.get?_cons, ih]
    split <;> rfl

/-- A field of an object that was made finite. -/
theorem Source.find?_finite (o : Source) (names : List String) :
    o.finite.find? names = (o.find? names).map fun f => (f.1, f.2.finite) := by
  induction names with
  | nil => rfl
  | cons name rest ih =>
    have hget : Assoc.get? o.finite.fields name = (Assoc.get? o.fields name).map Wire.finite :=
      get?_finiteFields o.fields name
    unfold find?
    rw [hget]
    cases Assoc.get? o.fields name with
    | none => exact ih
    | some w => rfl

/-- The way to the number that a field loses. -/
def lostField? (lost : Wire → Option (List Step)) (names : List String) (o : Source) :
    Option (List Step) :=
  (o.find? names).bind fun f => (lost f.2).map (.field f.1 :: ·)

section Fields

variable {check : Check α} {related : α → α → Prop} {lost : Wire → Option (List Step)}

/-- A field that is there survives as its value does. -/
theorem Weathers.field (h : Weathers Wire.finite check related lost) {name : String} {w : Wire} {a : α}
    (ha : (check w).under (.field name) = .valid a) :
    Survives related a ((lost w).map (.field name :: ·)) ((check w.finite).under (.field name)) := by
  cases hc : check w with
  | invalid vs =>
    rw [hc] at ha
    cases ha
  | valid b =>
    rw [hc] at ha
    cases ha
    exact (h w a hc).under (.field name)

/-- A field that must be there survives as its value does. -/
theorem Weathers.required (h : Weathers Wire.finite check related lost) (names : List String) :
    Weathers Source.finite (fun o => o.required names check) related (lostField? lost names) := by
  intro o a ha
  unfold lostField? Source.required at *
  dsimp only at ha ⊢
  rw [Source.find?_finite]
  cases hfound : o.find? names with
  | none =>
    rw [hfound] at ha
    cases ha
  | some f =>
    rw [hfound] at ha
    exact h.field ha

/-- A field with a default survives as its value does. -/
theorem Weathers.withDefault (h : Weathers Wire.finite check related lost) (names : List String)
    {fallback : α} (hfallback : related fallback fallback) :
    Weathers Source.finite (fun o => o.withDefault names fallback check) related (lostField? lost names) := by
  intro o a ha
  unfold lostField? Source.withDefault at *
  dsimp only at ha ⊢
  rw [Source.find?_finite]
  cases hfound : o.find? names with
  | none =>
    rw [hfound] at ha
    cases ha
    exact ⟨fallback, rfl, hfallback⟩
  | some f =>
    rw [hfound] at ha
    exact h.field ha

end Fields

/-- A record survives as its fields do. -/
theorem Weathers.record {read : Source → Checked α} {related : α → α → Prop}
    {lost : Source → Option (List Step)} (h : Weathers Source.finite read related lost) (name : String) :
    Weathers Wire.finite (record name read) related
      fun w => match w with | .object fields => lost ⟨fields⟩ | _ => none := by
  intro w a ha
  cases w with
  | object fields => exact h ⟨fields⟩ a ha
  | _ => cases ha

end Records

end ChartScript.Schema
