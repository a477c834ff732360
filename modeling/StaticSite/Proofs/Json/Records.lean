import StaticSite.Proofs.Json.Restoring

/-!
# Records that are read back

Fields are read one after the other into what has been read so far, from an object in the order
of its members and from an array in the order of the fields. What each field keeps, the record
yields. A writer goes through the same fields and gives each of them one member, or none if the
field may be missing; `Fills` says what the fields make of these members, one by one.
-/

namespace StaticSite.Json

variable {σ α : Type} {fields : List (RecordField σ)} {P : σ → Prop}

/-! ## What records yield -/

/-- The field keeps the property of what has been read so far. -/
def RecordField.Keeps (field : RecordField σ) (P : σ → Prop) : Prop :=
  ∀ budget node s t, P s → field.read budget node s = .ok t → P t

theorem RecordField.keeps_of_yields {reader : Reader α} {set : α → σ → σ} {Q : α → Prop}
    (key : String) (hreader : reader.Yields Q) (hset : ∀ a s, Q a → P s → P (set a s)) :
    (RecordField.optional key reader set).Keeps P := by
  intro budget node s t hs hread
  obtain ⟨a, ha, ⟨⟩⟩ := bind_eq_ok_iff.mp hread
  exact hset a s (hreader budget node a ha) hs

theorem RecordField.keeps_of_set {reader : Reader α} {set : α → σ → σ} (key : String)
    (hset : ∀ a s, P s → P (set a s)) : (RecordField.optional key reader set).Keeps P :=
  keeps_of_yields key (fun _ _ _ _ => trivial) fun a s _ => hset a s

theorem readFields_keeps (hfields : ∀ field ∈ fields, field.Keeps P) {budget : Nat}
    {seen seen' : List String} {s t : σ} {members : List (Key × Node)}
    (hread : readFields fields budget seen s members = .ok (seen', t)) (hs : P s) : P t := by
  induction members generalizing seen s with
  | nil =>
      cases hread
      exact hs
  | cons first rest ih =>
      obtain ⟨key, node⟩ := first
      rw [readFields] at hread
      obtain ⟨name, _, hread⟩ := bind_eq_ok_iff.mp hread
      cases hfind : fields.find? (·.key = name) with
      | none =>
          rw [hfind] at hread
          obtain ⟨_, _, hread⟩ := bind_eq_ok_iff.mp hread
          exact ih hread hs
      | some field =>
          rw [hfind] at hread
          dsimp only at hread
          split at hread
          · cases hread
          · obtain ⟨next, hnext, hread⟩ := bind_eq_ok_iff.mp hread
            exact ih hread (hfields field (List.mem_of_find?_eq_some hfind) _ _ _ _ hs hnext)

theorem readPositions_keeps (hfields : ∀ field ∈ fields, field.Keeps P) {budget position : Nat}
    {expected : String} {stop : Stop} {s t : σ} {items rest : List Node}
    (hread : readPositions budget expected stop position fields s items = .ok (t, rest))
    (hs : P s) : P t := by
  induction fields generalizing position s items with
  | nil =>
      cases hread
      exact hs
  | cons field fields ih =>
      rw [List.forall_mem_cons] at hfields
      cases items with
      | nil =>
          rw [readPositions] at hread
          obtain ⟨_, _, hread⟩ := bind_eq_ok_iff.mp hread
          split at hread
          · cases hread
          · exact ih hfields.2 hread hs
      | cons item items =>
          rw [readPositions] at hread
          obtain ⟨next, hnext, hread⟩ := bind_eq_ok_iff.mp hread
          exact ih hfields.2 hread (hfields.1 _ _ _ _ hs hnext)

theorem yields_record {name : String} {start : σ} {source : Source}
    (hfields : ∀ field ∈ fields, field.Keeps P) (hstart : P start) :
    Reader.Yields (readRecord name fields start source) P := by
  intro budget node a hread
  unfold readRecord at hread
  split at hread
  · cases hread
  · cases hread
  · obtain ⟨⟨seen, s⟩, hmembers, hread⟩ := bind_eq_ok_iff.mp hread
    obtain ⟨_, _, hread⟩ := bind_eq_ok_iff.mp hread
    obtain ⟨_, _, ⟨⟩⟩ := bind_eq_ok_iff.mp hread
    exact readFields_keeps hfields hmembers hstart
  · obtain ⟨⟨s, rest⟩, hitems, hread⟩ := bind_eq_ok_iff.mp hread
    obtain ⟨_, _, ⟨⟩⟩ := bind_eq_ok_iff.mp hread
    exact readPositions_keeps hfields hitems hstart
  · exact absurd hread (mismatch_ne_ok _ _ _)

/-! ## What records restore -/

/-- What a field makes of the part of the members that was written for it. -/
inductive RecordField.Takes (field : RecordField σ) : Members → σ → σ → Prop
  | member {value : Value} {s t : σ}
      (hread : ∀ budget, (Node.ofValue value).height < budget →
        field.read budget (Node.ofValue value) s = .ok t) : Takes field [(field.key, value)] s t
  | nothing {s : σ} (hneeded : field.required = false) : Takes field [] s s

/-- What the fields make of the members, each of its own part. -/
inductive Fills : List (RecordField σ) → Members → σ → σ → Prop
  | nil (s : σ) : Fills [] [] s s
  | cons {field : RecordField σ} {fields : List (RecordField σ)} {part members : Members}
      {s t u : σ} (hfield : field.Takes part s t) (hrest : Fills fields members t u) :
      Fills (field :: fields) (part ++ members) s u

theorem Fills.congr {members members' : Members} {s t : σ} (h : Fills fields members s t)
    (hmembers : members = members') : Fills fields members' s t :=
  hmembers ▸ h

theorem Fills.append {more : List (RecordField σ)} {members others : Members} {s t u : σ}
    (h : Fills fields members s t) (hmore : Fills more others t u) :
    Fills (fields ++ more) (members ++ others) s u := by
  induction h with
  | nil => exact hmore
  | cons hfield _ ih =>
      rw [List.append_assoc]
      exact .cons hfield (ih hmore)

theorem Reader.Restores.takes {key : String} {reader : Reader α} {set : α → σ → σ}
    {value : Value} {a : α} {s t : σ} (h : reader.Restores value a) (hset : set a s = t) :
    (RecordField.optional key reader set).Takes [(key, value)] s t := by
  apply RecordField.Takes.member
  intro budget hbudget
  exact bind_eq_ok_iff.mpr ⟨a, h budget hbudget, congrArg _ hset⟩

theorem Reader.Restores.takes_needed {key : String} {reader : Reader α} {set : α → σ → σ}
    {value : Value} {a : α} {s t : σ} (h : reader.Restores value a) (hset : set a s = t) :
    (RecordField.needed key reader set).Takes [(key, value)] s t := by
  apply RecordField.Takes.member
  intro budget hbudget
  exact bind_eq_ok_iff.mpr ⟨a, h budget hbudget, congrArg _ hset⟩

theorem find?_key_of_mem (hkeys : (fields.map (·.key)).Nodup) {field : RecordField σ}
    (hfield : field ∈ fields) : fields.find? (·.key = field.key) = some field := by
  induction fields with
  | nil => cases hfield
  | cons first rest ih =>
      rw [List.map_cons, List.nodup_cons] at hkeys
      cases hfield with
      | head => rw [List.find?_cons_of_pos (by simp)]
      | tail _ hrest =>
          have hother : first.key ≠ field.key :=
            fun hsame => hkeys.1 (hsame ▸ List.mem_map_of_mem hrest)
          rw [List.find?_cons_of_neg (by simpa using hother), ih hkeys.2 hrest]

theorem Fills.key_mem_of_required {members : Members} {s t : σ} (h : Fills fields members s t)
    {field : RecordField σ} (hfield : field ∈ fields) (hrequired : field.required = true) :
    field.key ∈ members.map (·.1) := by
  induction h with
  | nil => cases hfield
  | cons htakes _ ih =>
      rw [List.map_append, List.mem_append]
      cases hfield with
      | tail _ hrest => exact Or.inr (ih hrest)
      | head =>
          cases htakes with
          | member _ => exact Or.inl List.mem_cons_self
          | nothing hneeded => cases hneeded.symm.trans hrequired

/-- The members are read in the order in which they were written. `all` are the fields of the
record, of which those in `fields` are still to come. -/
theorem Fills.readFields_eq {members : Members} {s t : σ} (h : Fills fields members s t)
    {all : List (RecordField σ)} {budget : Nat} {seen : List String}
    (hall : ∀ field ∈ fields, all.find? (·.key = field.key) = some field)
    (hkeys : (fields.map (·.key)).Nodup) (hseen : ∀ field ∈ fields, field.key ∉ seen)
    (hbudget : heightOfMembers (nodesOfMembers members) < budget) :
    readFields all budget seen s (nodesOfMembers members) =
      .ok ((members.map (·.1)).reverse ++ seen, t) := by
  induction h generalizing seen with
  | nil => rfl
  | @cons field fields part members s t u htakes _ ih =>
      rw [List.forall_mem_cons] at hall hseen
      rw [List.map_cons, List.nodup_cons] at hkeys
      cases htakes with
      | nothing => exact ih hall.2 hkeys.2 hseen.2 hbudget
      | @member value _ _ hread =>
          rw [List.singleton_append, nodesOfMembers, heightOfMembers, Nat.max_lt] at hbudget
          have hrest : ∀ other ∈ fields, other.key ∉ field.key :: seen := by
            intro other hother
            rw [List.mem_cons, not_or]
            exact ⟨fun hsame => hkeys.1 (hsame ▸ List.mem_map_of_mem hother),
              hseen.2 other hother⟩
          rw [List.singleton_append, nodesOfMembers, readFields, Key.name, liftFault]
          -- The key is found, and it is new, for no field comes twice.
          simp only [bind, Except.bind, hall.1, List.contains_iff_mem, hseen.1, if_false,
            hread budget hbudget.1, ih hall.2 hkeys.2 hrest hbudget.2]
          simp

theorem Fills.checkMissing_eq {members : Members} {s t : σ} (h : Fills fields members s t) :
    checkMissing fields (members.map (·.1)).reverse = .ok () := by
  have hnone : fields.find? (fun field =>
      field.required && !(members.map (·.1)).reverse.contains field.key) = none := by
    rw [List.find?_eq_none]
    intro field hfield hmissing
    rw [Bool.and_eq_true] at hmissing
    have hkey : field.key ∈ (members.map (·.1)).reverse :=
      List.mem_reverse.mpr (h.key_mem_of_required hfield hmissing.1)
    rw [List.contains_iff_mem.mpr hkey] at hmissing
    cases hmissing.2
  rw [checkMissing, hnone]

theorem restores_record {name : String} {start a : σ} {members : Members}
    (hkeys : (fields.map (·.key)).Nodup) (h : Fills fields members start a) :
    Reader.Restores (readRecord name fields start .value) (.object members) a := by
  intro budget hbudget
  cases budget with
  | zero => cases hbudget
  | succ budget =>
      have hread : readFields fields budget [] start (nodesOfMembers members) =
          .ok ((members.map (·.1)).reverse ++ [], a) :=
        h.readFields_eq (fun _ => find?_key_of_mem hkeys) hkeys (fun _ _ => List.not_mem_nil)
          (Nat.lt_of_succ_lt_succ hbudget)
      rw [Node.ofValue, readRecord, hread]
      simp only [bind, Except.bind, List.append_nil, h.checkMissing_eq]
      rfl

end StaticSite.Json
