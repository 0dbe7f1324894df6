import ModuleGraph.Proofs.Json.Members
import ModuleGraph.Proofs.Package.Pattern
import Mathlib.Data.List.Induction

/-!
# Ordered maps

An ordered map is a list of members without repeated keys. It is made by putting in one member after
the other (`gather`): a key that is there already keeps its place and takes the new value, so keys
stand in the order of their first occurrence and have their last value. The object a text stands for
is what its written members add up to (`parse?_eq_gather`). A key can be taken out without moving
more than one member (`takeOut`): the last member fills the hole. That disturbs the order of the
members, but every other key still has its value.
-/

set_option autoImplicit false

namespace ModuleGraph.Json

variable {α : Type}

/-! ## Putting members in -/

/-- Puts members into an ordered map, one after the other. -/
def putAll (members entries : List (String × α)) : List (String × α) :=
  entries.foldl (fun members m => putMember m.1 m.2 members) members

/-- The ordered map that members add up to. -/
def gather (entries : List (String × α)) : List (String × α) := putAll [] entries

theorem gather_concat (entries : List (String × α)) (m : String × α) :
    gather (entries ++ [m]) = putMember m.1 m.2 (gather entries) := by
  rw [gather, putAll, List.foldl_append]
  rfl

theorem putMember_of_not_mem {key : String} {value : α} {members : List (String × α)}
    (h : key ∉ members.map Prod.fst) : putMember key value members = members ++ [(key, value)] := by
  induction members with
  | nil => rfl
  | cons m rest ih =>
      obtain ⟨hm, hrest⟩ := not_or.1 (fun hmem => h (List.mem_cons.2 hmem))
      rw [putMember, if_neg (Ne.symm hm), ih hrest]
      rfl

theorem keys_putMember_of_mem {key : String} {value : α} {members : List (String × α)}
    (h : key ∈ members.map Prod.fst) :
    (putMember key value members).map Prod.fst = members.map Prod.fst := by
  induction members with
  | nil => cases h
  | cons m rest ih =>
      rw [putMember]
      split
      · next heq => rw [List.map_cons, List.map_cons, heq]
      · next hne =>
          have hrest : key ∈ rest.map Prod.fst :=
            (List.mem_cons.1 h).resolve_left fun heq => hne heq.symm
          rw [List.map_cons, List.map_cons, ih hrest]

theorem lookup_putMember_of_ne {key other : String} (hne : other ≠ key) (value : α)
    (members : List (String × α)) :
    (putMember key value members).lookup other = members.lookup other := by
  have hbeq : (other == key) = false := beq_eq_false_iff_ne.2 hne
  induction members with
  | nil => rw [putMember, List.lookup_cons, hbeq]
  | cons m rest ih =>
      rw [putMember]
      split
      · next heq => rw [List.lookup_cons, List.lookup_cons, heq, hbeq]
      · rw [List.lookup_cons, List.lookup_cons, ih]

/-- Keys stand in the order of their first occurrence. -/
theorem keys_gather (entries : List (String × α)) :
    (gather entries).map Prod.fst = (entries.map Prod.fst).eraseDups := by
  -- a member is put in behind those before it, so the induction is from the end
  induction entries using List.reverseRecOn with
  | nil => rfl
  | append_singleton entries m ih =>
      rw [gather_concat, List.map_append, List.map_singleton, List.eraseDups_append]
      by_cases hmem : m.1 ∈ entries.map Prod.fst
      · have hknown : m.1 ∈ (gather entries).map Prod.fst := by
          rw [ih, List.mem_eraseDups]
          exact hmem
        have hnone : [m.1].removeAll (entries.map Prod.fst) = [] := by
          simp only [List.removeAll, List.filter_cons, List.elem_eq_contains,
            List.contains_eq_mem, hmem, decide_true, Bool.not_true, Bool.false_eq_true, if_false,
            List.filter_nil]
        rw [keys_putMember_of_mem hknown, ih, hnone]
        simp
      · have hnew : m.1 ∉ (gather entries).map Prod.fst := by
          rw [ih, List.mem_eraseDups]
          exact hmem
        have hone : [m.1].removeAll (entries.map Prod.fst) = [m.1] := by
          simp only [List.removeAll, List.filter_cons, List.elem_eq_contains,
            List.contains_eq_mem, hmem, decide_false, Bool.not_false, if_true, List.filter_nil]
        rw [putMember_of_not_mem hnew, List.map_append, List.map_singleton, ih, hone]
        rfl

/-- A key has its last value. -/
theorem lookup_gather (entries : List (String × α)) (key : String) :
    (gather entries).lookup key = entries.reverse.lookup key := by
  induction entries using List.reverseRecOn with
  | nil => rfl
  | append_singleton entries m ih =>
      rw [gather_concat, List.reverse_append, List.reverse_singleton, List.singleton_append,
        List.lookup_cons]
      by_cases hkey : key = m.1
      · subst hkey
        rw [lookup_putMember, beq_self_eq_true]
      · rw [lookup_putMember_of_ne hkey, ih, beq_eq_false_iff_ne.2 hkey]

/-- Members without repeated keys are an ordered map as they stand. -/
theorem gather_of_nodup {entries : List (String × α)} (h : (entries.map Prod.fst).Nodup) :
    gather entries = entries := by
  induction entries using List.reverseRecOn with
  | nil => rfl
  | append_singleton entries m ih =>
      rw [List.map_append, List.nodup_append] at h
      obtain ⟨hentries, -, hapart⟩ := h
      have hnew : m.1 ∉ entries.map Prod.fst := fun hmem => hapart m.1 hmem m.1 (by simp) rfl
      rw [gather_concat, ih hentries, putMember_of_not_mem hnew]

/-! ## Taking a key out -/

/-- What is left behind a hole once the last member has moved into it. -/
def fillHole (rest : List (String × α)) : List (String × α) :=
  rest.getLast?.toList ++ rest.dropLast

/-- Takes a key out of an ordered map, with its value. The last member moves into the place that
becomes free. -/
def takeOut (key : String) : List (String × α) → Option α × List (String × α)
  | [] => (none, [])
  | (k, v) :: rest =>
      if k = key then (some v, fillHole rest)
      else ((takeOut key rest).1, (k, v) :: (takeOut key rest).2)

theorem fillHole_perm (rest : List (String × α)) : (fillHole rest).Perm rest := by
  have hends : rest.dropLast ++ rest.getLast?.toList = rest := by
    rcases List.eq_nil_or_concat rest with rfl | ⟨front, last, rfl⟩
    · rfl
    · simp
  calc (fillHole rest).Perm (rest.dropLast ++ rest.getLast?.toList) := List.perm_append_comm
    _ = rest := hends

theorem takeOut_fst (key : String) (members : List (String × α)) :
    (takeOut key members).1 = members.lookup key := by
  induction members with
  | nil => rfl
  | cons m rest ih =>
      rw [takeOut]
      split
      · next heq => rw [List.lookup_cons, heq, beq_self_eq_true]
      · next hne => rw [List.lookup_cons, beq_eq_false_iff_ne.2 (Ne.symm hne), ih]

/-- The members that stay are the others, in some order. -/
theorem takeOut_snd_perm {key : String} {members : List (String × α)}
    (hkeys : (members.map Prod.fst).Nodup) :
    (takeOut key members).2.Perm (members.filter fun m => m.1 ≠ key) := by
  induction members with
  | nil => exact .nil
  | cons m rest ih =>
      obtain ⟨hm, hrest⟩ := List.nodup_cons.1 hkeys
      rw [takeOut]
      split
      · next heq =>
          -- the key is not among those behind it
          have hothers : rest.filter (fun m => m.1 ≠ key) = rest := by
            rw [List.filter_eq_self]
            intro other hother
            simp only [decide_eq_true_eq]
            rintro rfl
            exact hm (heq ▸ List.mem_map_of_mem hother)
          rw [List.filter_cons, if_neg (by simpa using heq), hothers]
          exact fillHole_perm rest
      · next hne =>
          rw [List.filter_cons, if_pos (by simpa using hne)]
          exact (ih hrest).cons m

theorem nodup_takeOut (key : String) {members : List (String × α)}
    (hkeys : (members.map Prod.fst).Nodup) : ((takeOut key members).2.map Prod.fst).Nodup := by
  rw [((takeOut_snd_perm hkeys).map Prod.fst).nodup_iff]
  exact hkeys.sublist (List.filter_sublist.map Prod.fst)

/-- The other keys keep their values. -/
theorem lookup_takeOut_of_ne {key other : String} {members : List (String × α)}
    (hkeys : (members.map Prod.fst).Nodup) (hne : other ≠ key) :
    (takeOut key members).2.lookup other = members.lookup other := by
  ext value
  rw [Pattern.lookup_eq_some_iff_mem (nodup_takeOut key hkeys), (takeOut_snd_perm hkeys).mem_iff,
    Pattern.lookup_eq_some_iff_mem hkeys, List.mem_filter]
  simp only [decide_eq_true_eq, and_iff_left_iff_imp]
  exact fun _ => hne

/-! ## Members as they are written -/

/-- Reads the members of an object up to its closing brace, each as it is written. -/
def writtenMembers? : Nat → Nat → List Char → Option (List (String × Json) × List Char)
  | 0, _, _ => none
  | fuel + 1, depth, cs => do
      match skipBlank cs with
      | '"' :: rest =>
          let (key, rest) ← text? rest
          match skipBlank rest with
          | ':' :: rest =>
              let (value, rest) ← value? fuel depth rest
              match skipBlank rest with
              | ',' :: rest =>
                  let (others, rest) ← writtenMembers? fuel depth rest
                  some ((key, value) :: others, rest)
              | '\x7d' :: rest => some ([(key, value)], rest)
              | _ => none
          | _ => none
      | _ => none

/-- The members that a text writes behind its opening brace, in their order and with repetitions. -/
def written? (depth : Nat) (source : String) : Option (List (String × Json)) :=
  match skipBlank source.toList with
  | '\x7b' :: rest =>
      match skipBlank rest with
      | '\x7d' :: _ => some []
      | rest => (writtenMembers? (2 * source.toList.length + 1) (depth - 1) rest).map Prod.fst
  | _ => none

section Member

variable {fuel depth : Nat} {cs rest₁ rest₂ rest₃ rest₄ rest₅ rest : List Char} {key : String}
  {value : Json} (hquote : skipBlank cs = '"' :: rest₁) (hkey : text? rest₁ = some (key, rest₂))
  (hcolon : skipBlank rest₂ = ':' :: rest₃) (hvalue : value? fuel depth rest₃ = some (value, rest₄))
include hquote hkey hcolon hvalue

/-- A member that is written in front of others. -/
theorem writtenMembers?_of_comma {others : List (String × Json)}
    (hcomma : skipBlank rest₄ = ',' :: rest₅)
    (hothers : writtenMembers? fuel depth rest₅ = some (others, rest)) :
    writtenMembers? (fuel + 1) depth cs = some ((key, value) :: others, rest) := by
  simp [writtenMembers?, hquote, hkey, hcolon, hvalue, hcomma, hothers]

/-- A member that is written last. -/
theorem writtenMembers?_of_brace (hbrace : skipBlank rest₄ = '\x7d' :: rest) :
    writtenMembers? (fuel + 1) depth cs = some ([(key, value)], rest) := by
  simp [writtenMembers?, hquote, hkey, hcolon, hvalue, hbrace]

end Member

/-- What is read are the members before, with those that are written put in. -/
theorem exists_written_of_members? {fuel depth : Nat} {read members : List (String × Json)}
    {cs rest : List Char} (h : members? fuel depth read cs = some (members, rest)) :
    ∃ written, writtenMembers? fuel depth cs = some (written, rest) ∧
      members = putAll read written := by
  induction fuel generalizing read cs with
  | zero =>
      rw [members?] at h
      cases h
  | succ fuel ih =>
      rw [members?] at h
      split at h
      · next rest₁ hquote =>
          obtain ⟨⟨key, rest₂⟩, hkey, h⟩ := Option.bind_eq_some_iff.1 h
          dsimp only at h
          split at h
          · next rest₃ hcolon =>
              obtain ⟨⟨value, rest₄⟩, hvalue, h⟩ := Option.bind_eq_some_iff.1 h
              dsimp only at h
              split at h
              · next rest₅ hcomma =>
                  obtain ⟨others, hothers, rfl⟩ := ih h
                  exact ⟨(key, value) :: others,
                    writtenMembers?_of_comma hquote hkey hcolon hvalue hcomma hothers, rfl⟩
              · next rest₅ hbrace =>
                  obtain ⟨rfl, rfl⟩ := Prod.mk.inj (Option.some.inj h)
                  exact ⟨[(key, value)], writtenMembers?_of_brace hquote hkey hcolon hvalue hbrace,
                    rfl⟩
              · cases h
          · cases h
      · cases h

/-- A value that is an object is read from an opening brace on, and it is empty or its members are
read. -/
theorem value?_eq_object {fuel depth : Nat} {cs rest : List Char} {members : List (String × Json)}
    (h : value? (fuel + 1) depth cs = some (.object members, rest)) :
    ∃ inner, skipBlank cs = '\x7b' :: inner ∧
      ((members = [] ∧ ∃ rest', skipBlank inner = '\x7d' :: rest') ∨
        (members? fuel (depth - 1) [] (skipBlank inner) = some (members, rest) ∧
          ∀ rest', skipBlank inner ≠ '\x7d' :: rest')) := by
  rw [value?] at h
  split at h
  · cases h
  · cases h
  · cases h
  · simp at h
  · split at h
    · cases h
    · split at h
      · cases h
      · simp at h
  · next inner hbrace =>
      refine ⟨inner, hbrace, ?_⟩
      split at h
      · cases h
      · split at h
        · next rest' hend =>
            obtain ⟨hmembers, -⟩ := Prod.mk.inj (Option.some.inj h)
            exact Or.inl ⟨(Json.object.inj hmembers).symm, rest', hend⟩
        · next hne =>
            obtain ⟨⟨found, after⟩, hfound, hvalue⟩ := Option.map_eq_some_iff.1 h
            obtain ⟨hmembers, rfl⟩ := Prod.mk.inj hvalue
            obtain rfl := Json.object.inj hmembers
            exact Or.inr ⟨hfound, hne⟩
  · simp at h

/-- The object a text stands for is what the members that it writes add up to. -/
theorem exists_written_of_parse? {depth : Nat} {source : String} {members : List (String × Json)}
    (h : parse? depth source = some (.object members)) :
    ∃ written, written? depth source = some written ∧ members = gather written := by
  unfold parse? at h
  dsimp only at h
  split at h
  · next value rest hread =>
      split at h
      · obtain rfl := Option.some.inj h
        obtain ⟨inner, hbrace, ⟨rfl, rest', hend⟩ | ⟨hmembers, hne⟩⟩ := value?_eq_object hread
        · refine ⟨[], ?_, rfl⟩
          rw [written?, hbrace]
          simp [hend]
        · obtain ⟨written, hwritten, rfl⟩ := exists_written_of_members? hmembers
          refine ⟨written, ?_, rfl⟩
          rw [written?, hbrace]
          simp [hwritten]
      · cases h
  · cases h

end ModuleGraph.Json
