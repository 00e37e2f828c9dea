import Mathlib.Data.List.Nodup
import Remap.Json.Path
import Remap.Json.Reader

set_option relaxedAutoImplicit false
set_option autoImplicit false

/-!
# Well-formed values

A value is well formed when no object in it repeats a name and the positions of every array in it
are 64-bit words. Every value that is read from a text is well formed, as long as the text itself is
not longer than there are 64-bit words. The theory of request specs is about well-formed specs.

## Main definitions

* `Remap.Json.WellFormed` — the predicate on values.

## Main results

* `Remap.Json.wellFormed_of_read?` — what the reader returns is well formed.
-/

namespace Remap

namespace Json

/-- No object repeats a name, and every position in an array is a 64-bit word. -/
inductive WellFormed : Json → Prop
  | null : WellFormed .null
  | bool (value : Bool) : WellFormed (.bool value)
  | number (value : Number) : WellFormed (.number value)
  | string (value : String) : WellFormed (.string value)
  | array {items : List Json} (hlength : items.length ≤ UInt64.size)
      (hitems : ∀ item ∈ items, WellFormed item) : WellFormed (.array items)
  | object {members : Members} (hnames : members.keys.Nodup)
      (hmembers : ∀ member ∈ members, WellFormed member.2) : WellFormed (.object members)

attribute [simp] WellFormed.null WellFormed.bool WellFormed.number WellFormed.string

/-- An array is well formed when its length and its items are. -/
@[simp]
theorem wellFormed_array_iff {items : List Json} :
    WellFormed (.array items) ↔ items.length ≤ UInt64.size ∧ ∀ item ∈ items, item.WellFormed := by
  constructor
  · rintro (_ | _ | _ | _ | ⟨hlength, hitems⟩ | _)
    exact ⟨hlength, hitems⟩
  · rintro ⟨hlength, hitems⟩
    exact .array hlength hitems

/-- An object is well formed when its names are distinct and its values are well formed. -/
@[simp]
theorem wellFormed_object_iff {members : Members} :
    WellFormed (.object members) ↔
      members.keys.Nodup ∧ ∀ member ∈ members, member.2.WellFormed := by
  constructor
  · rintro (_ | _ | _ | _ | _ | ⟨hnames, hmembers⟩)
    exact ⟨hnames, hmembers⟩
  · rintro ⟨hnames, hmembers⟩
    exact .object hnames hmembers

end Json

/-! ## Objects from lists of members -/

namespace Members

/-- Inserting a member repeats no name. -/
theorem nodup_keys_insert {members : Members} (h : members.keys.Nodup) (name : String)
    (value : Json) : (members.insert name value).keys.Nodup := by
  rw [insert, keys_update]
  by_cases hname : name ∈ members.keys
  · rw [if_pos hname]
    exact h
  · rw [if_neg hname, List.nodup_append]
    refine ⟨h, List.nodup_singleton name, ?_⟩
    rintro a ha b hb rfl
    rw [List.mem_singleton] at hb
    exact hname (hb ▸ ha)

/-- The members after an insertion are the inserted one and members from before. -/
theorem mem_insert {members : Members} {name : String} {value : Json} {member : String × Json}
    (h : member ∈ members.insert name value) : member = (name, value) ∨ member ∈ members := by
  induction members with
  | nil => simpa [insert, update] using h
  | cons first rest ih =>
    obtain ⟨key, old⟩ := first
    rw [insert, update] at h
    by_cases hkey : key = name
    · rw [if_pos hkey] at h
      rcases List.mem_cons.1 h with rfl | h
      · left; rw [hkey]
      · right; exact List.mem_cons_of_mem _ h
    · rw [if_neg hkey] at h
      rcases List.mem_cons.1 h with rfl | h
      · right; exact List.mem_cons_self
      · rcases ih h with h | h
        · left; exact h
        · right; exact List.mem_cons_of_mem _ h

end Members

namespace Json

/-- The object of a list of well-formed members is well formed, also where the list repeats
names. -/
theorem wellFormed_ofMembers {members : List (String × Json)}
    (h : ∀ member ∈ members, member.2.WellFormed) : (ofMembers members).WellFormed := by
  rw [ofMembers, wellFormed_object_iff]
  -- The members collected so far keep both properties with every insertion.
  have hfold : ∀ all : Members, all.keys.Nodup → (∀ member ∈ all, member.2.WellFormed) →
      (members.foldl (fun (all : Members) member => all.insert member.1 member.2) all).keys.Nodup ∧
        ∀ member ∈ members.foldl (fun (all : Members) member => all.insert member.1 member.2) all,
          member.2.WellFormed := by
    induction members with
    | nil => exact fun all hnames hall => ⟨hnames, hall⟩
    | cons first rest ih =>
      obtain ⟨name, value⟩ := first
      intro all hnames hall
      refine ih (fun member hmem => h member (List.mem_cons_of_mem _ hmem)) (all.insert name value)
        (Members.nodup_keys_insert hnames name value) ?_
      intro member hmem
      rcases Members.mem_insert hmem with rfl | hmem
      · exact h (name, value) List.mem_cons_self
      · exact hall member hmem
  exact hfold [] (by simp [Members.keys]) (by simp)

/-! ## Values that are read -/

/-- Skipping blanks leaves no more characters than there were. -/
theorem length_skipGaps_le (s : List Char) : (skipGaps s).length ≤ s.length :=
  (List.dropWhile_sublist _).length_le

/-- The elements of a container have what every single element that is read has, and there is at
most one more of them than there are characters.

**Proof sketch.** By the recursion of the reader. Each further element comes behind a comma, so that
less of the text is left for the others. -/
theorem forall_mem_of_readElements? {α : Type} {readOne? : List Char → Option (α × List Char)}
    {Good : α → Prop} {bound : Nat} {closing : Char}
    (hone : ∀ s one rest, s.length ≤ bound → readOne? s = some (one, rest) → Good one)
    {s : List Char} {all : List α} {rest : List Char} (hs : s.length ≤ bound)
    (h : readElements? readOne? closing s = some (all, rest)) :
    (∀ one ∈ all, Good one) ∧ all.length ≤ s.length + 1 := by
  have hskip := Nat.le_trans (length_skipGaps_le s) hs
  fun_induction readElements? readOne? closing s generalizing all rest with
  | case1 => simp at h
  | case2 => simp at h
  | case3 s first rest' hfirst rest'' hgaps =>
    simp only [Option.some.injEq, Prod.mk.injEq] at h
    obtain ⟨rfl, rfl⟩ := h
    simpa using hone _ _ _ hskip hfirst
  | case4 s first rest' hfirst rest'' hlt hgaps hclosing ih =>
    rw [Option.map_eq_some_iff] at h
    obtain ⟨⟨others, rest₃⟩, hothers, heq⟩ := h
    simp only [Prod.mk.injEq] at heq
    obtain ⟨rfl, rfl⟩ := heq
    have hbound : rest''.length ≤ bound := by omega
    obtain ⟨hgood, hlength⟩ := ih hbound hothers (Nat.le_trans (length_skipGaps_le _) hbound)
    refine ⟨List.forall_mem_cons.2 ⟨hone _ _ _ hskip hfirst, hgood⟩, ?_⟩
    rw [List.length_cons]
    omega
  | case5 => simp at h
  | case6 => simp at h

/-- The elements between brackets have what every single element that is read has, and there are at
most as many of them as characters, the opening bracket counted. -/
theorem forall_mem_of_readContainer? {α : Type} {readOne? : List Char → Option (α × List Char)}
    {Good : α → Prop} {bound : Nat} {closing : Char}
    (hone : ∀ s one rest, s.length ≤ bound → readOne? s = some (one, rest) → Good one)
    {s : List Char} {all : List α} {rest : List Char} (hs : s.length ≤ bound)
    (h : readContainer? readOne? closing s = some (all, rest)) :
    (∀ one ∈ all, Good one) ∧ all.length ≤ s.length + 1 := by
  have hskip := length_skipGaps_le s
  cases hgaps : skipGaps s with
  | nil => simp [readContainer?, hgaps] at h
  | cons c rest' =>
    simp only [readContainer?, hgaps] at h
    by_cases hclosing : c = closing
    · rw [if_pos hclosing] at h
      obtain ⟨rfl, -⟩ := Prod.mk.inj (Option.some.inj h)
      simp
    · rw [if_neg hclosing] at h
      rw [hgaps] at hskip
      obtain ⟨hgood, hlength⟩ := forall_mem_of_readElements? hone (Nat.le_trans hskip hs) h
      exact ⟨hgood, by omega⟩

/-- What follows a string body is no longer than the text.

**Proof sketch.** By the recursion of the reader: every case of it takes some characters and goes on
with the others, or is at the end. -/
theorem length_rest_le_of_readStringBody? {s text rest : List Char}
    (h : readStringBody? s = some (text, rest)) : rest.length ≤ s.length := by
  fun_induction readStringBody? s generalizing text with
  | case1 => simp at h
  | case2 rest' => simp_all
  | case3 a b c d rest' ih ihPair =>
    rw [Option.bind_eq_bind, Option.bind_eq_some_iff] at h
    obtain ⟨unit, -, h⟩ := h
    simp only [List.length_cons]
    by_cases hunit : unit < 0xD800 ∨ 0xE000 ≤ unit
    · simp only [if_pos hunit, Option.bind_eq_bind, Option.bind_eq_some_iff, Prod.exists,
        Option.pure_def, Option.some.injEq, Prod.mk.injEq] at h
      obtain ⟨others, _, hothers, -, rfl⟩ := h
      have := ih hothers
      omega
    · rw [if_neg hunit] at h
      -- The second half of a pair of surrogates is skipped as well.
      by_cases hpair : ∃ e f g k others, rest' = '\\' :: 'u' :: e :: f :: g :: k :: others
      · obtain ⟨e, f, g, k, behind, rfl⟩ := hpair
        simp only [Option.bind_eq_bind, Option.bind_eq_some_iff, Prod.exists, Option.pure_def,
          Option.some.injEq, Prod.mk.injEq] at h
        obtain ⟨_, -, _, -, others, _, hothers, -, rfl⟩ := h
        have := ihPair hothers
        simp only [List.length_cons]
        omega
      · simp only [not_exists] at hpair
        simp at h
  | case4 c rest' _ ih =>
    simp only [Option.bind_eq_bind, Option.bind_eq_some_iff, Prod.exists, Option.pure_def,
      Option.some.injEq, Prod.mk.injEq] at h
    obtain ⟨_, -, others, _, hothers, -, rfl⟩ := h
    have := ih hothers
    simp only [List.length_cons]
    omega
  | case5 => simp at h
  | case6 c rest' _ _ _ _ ih =>
    simp only [Option.bind_eq_bind, Option.bind_eq_some_iff, Prod.exists, Option.pure_def,
      Option.some.injEq, Prod.mk.injEq] at h
    obtain ⟨others, _, hothers, -, rfl⟩ := h
    have := ih hothers
    rw [List.length_cons]
    omega

/-- What follows a string is no longer than the text. -/
theorem length_rest_le_of_readString? {s rest : List Char} {text : String}
    (h : readString? s = some (text, rest)) : rest.length ≤ s.length := by
  revert h
  fun_cases readString? s with
  | case1 body =>
    intro h
    obtain ⟨⟨characters, rest'⟩, hbody, heq⟩ := Option.map_eq_some_iff.1 h
    simp only [Prod.mk.injEq] at heq
    have := length_rest_le_of_readStringBody? hbody
    rw [← heq.2, List.length_cons]
    omega
  | case2 => simp

/-- The value of a member has what every value has that is read. -/
theorem good_of_readMember? {readInner? : List Char → Option (Json × List Char)}
    {Good : Json → Prop} {bound : Nat}
    (hinner : ∀ s value rest, s.length ≤ bound → readInner? s = some (value, rest) → Good value)
    {s : List Char} {member : String × Json} {rest : List Char} (hs : s.length ≤ bound)
    (h : readMember? readInner? s = some (member, rest)) : Good member.2 := by
  simp only [readMember?, Option.bind_eq_bind, Option.bind_eq_some_iff] at h
  obtain ⟨⟨name, afterName⟩, hname, h⟩ := h
  have hlength := length_rest_le_of_readString? hname
  have hgaps := length_skipGaps_le afterName
  by_cases hcolon : ∃ afterColon, skipGaps afterName = ':' :: afterColon
  · obtain ⟨afterColon, hcolon⟩ := hcolon
    simp only [hcolon, Option.bind_eq_some_iff] at h
    obtain ⟨⟨value, afterValue⟩, hvalue, heq⟩ := h
    simp only [Option.pure_def, Option.some.injEq, Prod.mk.injEq] at heq
    rw [← heq.1]
    refine hinner _ _ _ ?_ hvalue
    have := length_skipGaps_le afterColon
    rw [hcolon, List.length_cons] at hgaps
    omega
  · rw [not_exists] at hcolon
    simp at h

/-- A value at the start of a text of at most `2 ^ 64` characters is well formed.

**Proof sketch.** Induction on the depth that is left. Scalars are well formed. The items of an
array come from the reader of the next depth, and there are no more of them than characters
(`forall_mem_of_readContainer?`). The members of an object come from it in the same way, and putting
them together leaves no repeated name (`wellFormed_ofMembers`). -/
theorem wellFormed_of_readValue? {depth : Nat} {s : List Char} {value : Json} {rest : List Char}
    (hs : s.length ≤ UInt64.size) (h : readValue? depth s = some (value, rest)) :
    value.WellFormed := by
  induction depth using Nat.strongRecOn generalizing s value rest with
  | ind depth ih =>
    revert h
    fun_cases readValue? depth s with
    | case1 =>
      intro h
      obtain ⟨rfl, -⟩ := Prod.mk.inj (Option.some.inj h)
      exact .null
    | case2 =>
      intro h
      obtain ⟨rfl, -⟩ := Prod.mk.inj (Option.some.inj h)
      exact .bool true
    | case3 =>
      intro h
      obtain ⟨rfl, -⟩ := Prod.mk.inj (Option.some.inj h)
      exact .bool false
    | case4 =>
      intro h
      obtain ⟨⟨text, rest'⟩, -, heq⟩ := Option.map_eq_some_iff.1 h
      obtain ⟨rfl, -⟩ := Prod.mk.inj heq
      exact .string text
    | case5 => simp
    | case6 body depth =>
      intro h
      obtain ⟨⟨items, rest'⟩, hitems, heq⟩ := Option.map_eq_some_iff.1 h
      obtain ⟨rfl, -⟩ := Prod.mk.inj heq
      rw [List.length_cons] at hs
      obtain ⟨hgood, hlength⟩ := forall_mem_of_readContainer?
        (fun s one rest hs hone => ih depth (Nat.lt_succ_self _) hs hone)
        (Nat.le_of_succ_le hs) hitems
      exact .array (Nat.le_trans hlength hs) hgood
    | case7 => simp
    | case8 body depth =>
      intro h
      obtain ⟨⟨members, rest'⟩, hmembers, heq⟩ := Option.map_eq_some_iff.1 h
      obtain ⟨rfl, -⟩ := Prod.mk.inj heq
      rw [List.length_cons] at hs
      obtain ⟨hgood, -⟩ := forall_mem_of_readContainer?
        (fun s one rest hs hone => good_of_readMember?
          (fun s value rest hs hvalue => ih depth (Nat.lt_succ_self _) hs hvalue) hs hone)
        (Nat.le_of_succ_le hs) hmembers
      exact wellFormed_ofMembers hgood
    | case9 =>
      intro h
      obtain ⟨⟨number, rest'⟩, -, heq⟩ := Option.map_eq_some_iff.1 h
      obtain ⟨rfl, -⟩ := Prod.mk.inj heq
      exact .number number

/-- **What the reader returns is well formed**, whatever names the text repeats. -/
theorem wellFormed_of_read? {text : String} {value : Json} (htext : text.length ≤ UInt64.size)
    (h : read? text = some value) : value.WellFormed := by
  have hskip := length_skipGaps_le text.toList
  cases hfound : readValue? depthLimit (skipGaps text.toList) with
  | none => simp [read?, hfound] at h
  | some result =>
    obtain ⟨found, rest⟩ := result
    simp only [read?, hfound] at h
    by_cases hend : (skipGaps rest).isEmpty = true
    · rw [if_pos hend] at h
      obtain rfl := Option.some.inj h
      exact wellFormed_of_readValue? (Nat.le_trans hskip (by rwa [String.length_toList])) hfound
    · simp [hend] at h

end Json

end Remap
