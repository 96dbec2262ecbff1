import Mathlib.Data.List.Perm.Basic

/-!
# One-to-one correspondence

Two lists correspond one to one if each element of either has a partner of its own in the other,
whatever the order. So a correspondence says that nothing is lost, merged or invented.

## Main definitions

* `OneToOne`: the correspondence of two lists by a relation.

## Main results

* `OneToOne.cons_left_iff`: the partner of the first element.
* `OneToOne.map_perm`: what partners have in common.
* `OneToOne.exists_right_of_mem`, `OneToOne.exists_left_of_mem`: every element has a partner.
* `OneToOne.congr_left`, `OneToOne.perm_right_of_unique`: a list is determined up to order by what
  corresponds to it.
-/

namespace SensorCatalog

variable {α β : Type} {R : α → β → Prop} {as : List α} {bs : List β}

/-- Two lists correspond one to one: the second can be put in an order in which its elements are,
place by place, the partners of the elements of the first. -/
def OneToOne (R : α → β → Prop) (as : List α) (bs : List β) : Prop :=
  ∃ partners, List.Forall₂ R as partners ∧ bs.Perm partners

namespace OneToOne

theorem nil_left_iff : OneToOne R [] bs ↔ bs = [] := by
  simp [OneToOne]

theorem cons_left_iff {a : α} :
    OneToOne R (a :: as) bs ↔ ∃ b cs, R a b ∧ OneToOne R as cs ∧ bs.Perm (b :: cs) := by
  constructor
  · rintro ⟨_, hpartners, hperm⟩
    obtain ⟨b, cs, hab, hcs, rfl⟩ := List.forall₂_cons_left_iff.1 hpartners
    exact ⟨b, cs, hab, ⟨cs, hcs, .refl cs⟩, hperm⟩
  · rintro ⟨b, cs, hab, ⟨partners, hpartners, hcs⟩, hperm⟩
    exact ⟨b :: partners, .cons hab hpartners, hperm.trans (hcs.cons b)⟩

theorem map_left_iff {γ : Type} {f : γ → α} {cs : List γ} :
    OneToOne R (cs.map f) bs ↔ OneToOne (fun c => R (f c)) cs bs := by
  simp only [OneToOne, List.forall₂_map_left_iff]

theorem perm_right {bs' : List β} (h : OneToOne R as bs) (hperm : bs'.Perm bs) :
    OneToOne R as bs' := by
  obtain ⟨partners, hpartners, hbs⟩ := h
  exact ⟨partners, hpartners, hperm.trans hbs⟩

theorem imp {S : α → β → Prop} (h : OneToOne R as bs) (hRS : ∀ {a b}, R a b → S a b) :
    OneToOne S as bs := by
  obtain ⟨partners, hpartners, hperm⟩ := h
  exact ⟨partners, hpartners.imp fun _ _ => hRS, hperm⟩

/-- What is the same for partners is the same for the lists, up to order. -/
theorem map_perm {γ : Type} {f : α → γ} {g : β → γ} (h : OneToOne R as bs)
    (hfg : ∀ {a b}, R a b → g b = f a) : (bs.map g).Perm (as.map f) := by
  obtain ⟨partners, hpartners, hperm⟩ := h
  refine (hperm.map g).trans (.of_eq ?_)
  clear hperm
  induction hpartners with
  | nil => rfl
  | cons hab _ ih => rw [List.map_cons, List.map_cons, hfg hab, ih]

theorem exists_right_of_mem (h : OneToOne R as bs) {a : α} (ha : a ∈ as) : ∃ b ∈ bs, R a b := by
  obtain ⟨partners, hpartners, hperm⟩ := h
  simp only [hperm.mem_iff]
  clear hperm
  induction hpartners with
  | nil => exact absurd ha List.not_mem_nil
  | cons hab _ ih =>
    rcases List.mem_cons.1 ha with rfl | ha
    · exact ⟨_, List.mem_cons_self, hab⟩
    · obtain ⟨b, hb, hR⟩ := ih ha
      exact ⟨b, List.mem_cons_of_mem _ hb, hR⟩

theorem exists_left_of_mem (h : OneToOne R as bs) {b : β} (hb : b ∈ bs) : ∃ a ∈ as, R a b := by
  obtain ⟨partners, hpartners, hperm⟩ := h
  rw [hperm.mem_iff] at hb
  clear hperm
  induction hpartners with
  | nil => exact absurd hb List.not_mem_nil
  | cons hab _ ih =>
    rcases List.mem_cons.1 hb with rfl | hb
    · exact ⟨_, List.mem_cons_self, hab⟩
    · obtain ⟨a, ha, hR⟩ := ih hb
      exact ⟨a, List.mem_cons_of_mem _ ha, hR⟩

theorem perm_left {as' : List α} (h : OneToOne R as bs) (hperm : as'.Perm as) :
    OneToOne R as' bs := by
  obtain ⟨partners, hpartners, hbs⟩ := h
  obtain ⟨others, hothers, hsame⟩ := List.perm_comp_forall₂ hperm hpartners
  exact ⟨others, hothers, hbs.trans hsame.symm⟩

theorem symm (h : OneToOne R as bs) : OneToOne (fun b a => R a b) bs as := by
  obtain ⟨partners, hpartners, hbs⟩ := h
  have hflip : OneToOne (fun b a => R a b) partners as := ⟨as, hpartners.flip, .refl as⟩
  exact hflip.perm_left hbs

/-- Partners of partners. -/
theorem trans {γ : Type} {S : β → γ → Prop} {T : α → γ → Prop} {cs : List γ} (h : OneToOne R as bs)
    (h' : OneToOne S bs cs) (hT : ∀ {a b c}, R a b → S b c → T a c) : OneToOne T as cs := by
  obtain ⟨partners, hpartners, hbs⟩ := h
  obtain ⟨others, hothers, hcs⟩ := h'.perm_left hbs.symm
  refine ⟨others, ?_, hcs⟩
  clear hbs hcs
  induction hpartners generalizing others with
  | nil => rwa [List.forall₂_nil_left_iff] at hothers ⊢
  | cons hab _ ih =>
    obtain ⟨c, cs, hbc, hrest, rfl⟩ := List.forall₂_cons_left_iff.1 hothers
    exact .cons (hT hab hbc) (ih _ hrest)

/-! ### Several lists -/

theorem append {as' : List α} {bs' : List β} (h : OneToOne R as bs) (h' : OneToOne R as' bs') :
    OneToOne R (as ++ as') (bs ++ bs') := by
  obtain ⟨partners, hpartners, hbs⟩ := h
  obtain ⟨partners', hpartners', hbs'⟩ := h'
  exact ⟨partners ++ partners', List.rel_append hpartners hpartners', hbs.append hbs'⟩

theorem map {γ δ : Type} {S : γ → δ → Prop} {f : α → γ} {g : β → δ} (h : OneToOne R as bs)
    (hfg : ∀ {a b}, R a b → S (f a) (g b)) : OneToOne S (as.map f) (bs.map g) := by
  obtain ⟨partners, hpartners, hbs⟩ := h
  exact ⟨partners.map g, List.rel_map (fun _ _ hab => hfg hab) hpartners, hbs.map g⟩

theorem filterMap {γ δ : Type} {S : γ → δ → Prop} {f : α → Option γ} {g : β → Option δ}
    (h : OneToOne R as bs) (hfg : ∀ {a b}, R a b → Option.Rel S (f a) (g b)) :
    OneToOne S (as.filterMap f) (bs.filterMap g) := by
  obtain ⟨partners, hpartners, hbs⟩ := h
  exact ⟨partners.filterMap g, List.rel_filterMap (fun _ _ hab => hfg hab) hpartners,
    hbs.filterMap g⟩

/-- Lists that correspond to each other correspond to the same lists, if partners do. -/
theorem congr_left {α' : Type} {S : α → α' → Prop} {R' : α' → β → Prop} {as' : List α'}
    (h : OneToOne S as as') (hR : ∀ {a a'}, S a a' → ∀ b, (R a b ↔ R' a' b)) :
    OneToOne R as bs ↔ OneToOne R' as' bs := by
  obtain ⟨partners, hpartners, has'⟩ := h
  have hsame : ∀ cs, List.Forall₂ R as cs ↔ List.Forall₂ R' partners cs := by
    clear has'
    induction hpartners with
    | nil => simp
    | cons ha _ ih => simp only [List.forall₂_cons_left_iff, hR ha, ih, implies_true]
  have hpartner : OneToOne R as bs ↔ OneToOne R' partners bs :=
    exists_congr fun cs => and_congr_left' (hsame cs)
  exact hpartner.trans ⟨fun h => h.perm_left has', fun h => h.perm_left has'.symm⟩

/-- What corresponds to a list is determined up to order if partners are. -/
theorem perm_right_of_unique {bs' : List β} (h : OneToOne R as bs) (h' : OneToOne R as bs')
    (hR : ∀ {a b b'}, R a b → R a b' → b = b') : bs.Perm bs' := by
  obtain ⟨partners, hpartners, hbs⟩ := h
  obtain ⟨partners', hpartners', hbs'⟩ := h'
  have hunique : Relator.RightUnique R := fun _ _ _ hab hab' => hR hab hab'
  obtain rfl : partners = partners' := hunique.forall₂ hpartners hpartners'
  exact hbs.trans hbs'.symm

theorem exists_of_forall (h : ∀ a ∈ as, ∃ b, R a b) : ∃ bs, OneToOne R as bs := by
  induction as with
  | nil => exact ⟨[], nil_left_iff.2 rfl⟩
  | cons a as ih =>
    obtain ⟨⟨b, hab⟩, has⟩ := List.forall_mem_cons.1 h
    obtain ⟨bs, hbs⟩ := ih has
    exact ⟨b :: bs, cons_left_iff.2 ⟨b, bs, hab, hbs, .refl _⟩⟩

end OneToOne

end SensorCatalog
