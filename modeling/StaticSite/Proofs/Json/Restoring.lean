import Mathlib.Data.List.Nodup
import StaticSite.Json.Reader
import StaticSite.Proofs.Results

/-!
# Values that are read back

A typed reader yields values of a certain form only, whatever it reads them from, and values of
that form are restored from what they are written as. Both halves are proved reader by reader;
a type whose halves meet in one form is read back.

The form of an untyped value is that its objects have distinct keys, for a key that comes again
takes the place of the first. Such a value reads as itself, with all members in their order.
-/

namespace StaticSite.Json

/-! ## Distinct keys -/

/-- No object in the value has a key twice. -/
inductive Value.DistinctKeys : Value → Prop
  | null : DistinctKeys .null
  | bool (b : Bool) : DistinctKeys (.bool b)
  | number (n : Number) : DistinctKeys (.number n)
  | string (s : String) : DistinctKeys (.string s)
  | array {items : List Value} (hitems : ∀ item ∈ items, item.DistinctKeys) :
      DistinctKeys (.array items)
  | object {members : Members} (hkeys : (members.map (·.1)).Nodup)
      (hvalues : ∀ m ∈ members, m.2.DistinctKeys) : DistinctKeys (.object members)

theorem Members.insert_of_not_mem {key : String} {members : Members}
    (hkey : key ∉ members.map (·.1)) (value : Value) :
    members.insert key value = members ++ [(key, value)] := by
  induction members with
  | nil => rfl
  | cons first rest ih =>
      obtain ⟨k, v⟩ := first
      rw [List.map_cons, List.mem_cons, not_or] at hkey
      rw [Members.insert, if_neg (Ne.symm hkey.1), ih hkey.2, List.cons_append]

theorem Members.map_fst_insert_of_mem {key : String} {members : Members}
    (hkey : key ∈ members.map (·.1)) (value : Value) :
    (members.insert key value).map (·.1) = members.map (·.1) := by
  induction members with
  | nil => simp at hkey
  | cons first rest ih =>
      obtain ⟨k, v⟩ := first
      rw [Members.insert]
      by_cases hsame : k = key
      · rw [if_pos hsame, List.map_cons, List.map_cons]
      · rw [List.map_cons, List.mem_cons] at hkey
        rw [if_neg hsame, List.map_cons, List.map_cons, ih (hkey.resolve_left (Ne.symm hsame))]

theorem Members.mem_insert {key : String} {value : Value} {members : Members}
    {m : String × Value} (hm : m ∈ members.insert key value) :
    m = (key, value) ∨ m ∈ members := by
  induction members with
  | nil => exact Or.inl (List.mem_singleton.mp hm)
  | cons first rest ih =>
      obtain ⟨k, v⟩ := first
      rw [Members.insert] at hm
      by_cases hsame : k = key
      · rw [if_pos hsame, List.mem_cons, hsame] at hm
        exact hm.imp_right (List.mem_cons_of_mem _)
      · rw [if_neg hsame, List.mem_cons] at hm
        rcases hm with hfirst | hrest
        · exact Or.inr (hfirst ▸ List.mem_cons_self)
        · exact (ih hrest).imp_right (List.mem_cons_of_mem _)

theorem Value.DistinctKeys.insert {members : Members} (h : (Value.object members).DistinctKeys)
    (key : String) {value : Value} (hvalue : value.DistinctKeys) :
    (Value.object (members.insert key value)).DistinctKeys := by
  cases h with
  | object hkeys hvalues =>
      constructor
      · by_cases hkey : key ∈ members.map (·.1)
        · rw [Members.map_fst_insert_of_mem hkey]
          exact hkeys
        · rw [Members.insert_of_not_mem hkey, List.map_append, List.map_singleton,
            ← List.concat_eq_append]
          exact hkeys.concat hkey
      · intro m hm
        rcases Members.mem_insert hm with rfl | hold
        · exact hvalue
        · exact hvalues m hold

/-! ## What readers yield -/

/-- Whatever the reader reads, the result has the property. -/
def Reader.Yields {α : Type} (reader : Reader α) (P : α → Prop) : Prop :=
  ∀ budget node a, reader budget node = .ok a → P a

theorem mismatch_ne_ok {α : Type} (node : Node) (expected : String) (a : α) :
    mismatch node expected ≠ .ok a := by
  unfold mismatch
  split <;> simp

theorem readMembersInto_distinctKeys {reader : Node → Except ReadError Value}
    (hreader : ∀ node v, reader node = .ok v → v.DistinctKeys) {members read : Members}
    {nodes : List (Key × Node)} (hread : readMembersInto reader members nodes = .ok read)
    (hmembers : (Value.object members).DistinctKeys) : (Value.object read).DistinctKeys := by
  induction nodes generalizing members with
  | nil =>
      rw [readMembersInto, Except.ok.injEq] at hread
      exact hread ▸ hmembers
  | cons first rest ih =>
      obtain ⟨key, node⟩ := first
      rw [readMembersInto] at hread
      obtain ⟨name, _, hread⟩ := bind_eq_ok_iff.mp hread
      obtain ⟨value, hvalue, hread⟩ := bind_eq_ok_iff.mp hread
      exact ih hread (hmembers.insert name (hreader node value hvalue))

theorem yields_value : Reader.Yields readValue Value.DistinctKeys := by
  intro budget
  induction budget using Nat.strongRecOn with
  | ind budget ih =>
      intro node v hread
      cases node with
      | null =>
          rw [readValue, Except.ok.injEq] at hread
          exact hread ▸ .null
      | bool b =>
          rw [readValue, Except.ok.injEq] at hread
          exact hread ▸ .bool b
      | number n =>
          rw [readValue] at hread
          obtain ⟨n, _, ⟨⟩⟩ := bind_eq_ok_iff.mp hread
          exact .number n
      | string s =>
          rw [readValue] at hread
          obtain ⟨s, _, ⟨⟩⟩ := bind_eq_ok_iff.mp hread
          exact .string s
      | array items stop =>
          cases budget with
          | zero => cases hread
          | succ budget =>
              rw [readValue] at hread
              obtain ⟨read, hitems, hread⟩ := bind_eq_ok_iff.mp hread
              obtain ⟨_, _, ⟨⟩⟩ := bind_eq_ok_iff.mp hread
              constructor
              intro item hitem
              obtain ⟨node, _, hnode⟩ := exists_of_mapM_eq_ok hitems item hitem
              exact ih budget (Nat.lt_succ_self budget) node item hnode
      | object members stop =>
          cases budget with
          | zero => cases hread
          | succ budget =>
              rw [readValue] at hread
              obtain ⟨read, hmembers, hread⟩ := bind_eq_ok_iff.mp hread
              obtain ⟨_, _, ⟨⟩⟩ := bind_eq_ok_iff.mp hread
              exact readMembersInto_distinctKeys (ih budget (Nat.lt_succ_self budget)) hmembers
                (.object List.nodup_nil (by simp))
      | unended | broken | absent =>
          rw [readValue] at hread
          cases hread

theorem yields_map : Reader.Yields readMap fun members => (Value.object members).DistinctKeys := by
  intro budget node read hread
  unfold readMap at hread
  split at hread
  · cases hread
  · obtain ⟨read, hmembers, hread⟩ := bind_eq_ok_iff.mp hread
    obtain ⟨_, _, ⟨⟩⟩ := bind_eq_ok_iff.mp hread
    exact readMembersInto_distinctKeys (yields_value _) hmembers
      (.object List.nodup_nil (by simp))
  · exact absurd hread (mismatch_ne_ok _ _ _)

theorem yields_port : Reader.Yields readPort (· < 65536) := by
  intro budget node port hread
  unfold readPort at hread
  split at hread
  · obtain ⟨number, _, hread⟩ := bind_eq_ok_iff.mp hread
    cases number with
    | integer i =>
        dsimp only at hread
        split at hread
        · cases hread
          simp at *
          omega
        · cases hread
    | float x => cases hread
  · exact absurd hread (mismatch_ne_ok _ _ _)

theorem Reader.Yields.option {α : Type} {reader : Reader α} {P : α → Prop}
    (h : reader.Yields P) : (readOption reader).Yields fun o => ∀ a, o = some a → P a := by
  intro budget node o hread
  unfold readOption at hread
  split at hread
  · cases hread
    simp
  · obtain ⟨a, ha, rfl⟩ := map_eq_ok_iff.mp hread
    rintro _ ⟨⟩
    exact h _ _ _ ha

theorem Reader.Yields.list {α : Type} {reader : Reader α} {P : α → Prop}
    (h : reader.Yields P) : (readList reader).Yields fun as => ∀ a ∈ as, P a := by
  intro budget node as hread
  unfold readList at hread
  split at hread
  · cases hread
  · obtain ⟨read, hitems, hread⟩ := bind_eq_ok_iff.mp hread
    obtain ⟨_, _, ⟨⟩⟩ := bind_eq_ok_iff.mp hread
    intro a ha
    obtain ⟨node, _, hnode⟩ := exists_of_mapM_eq_ok hitems a ha
    exact h _ _ _ hnode
  · exact absurd hread (mismatch_ne_ok _ _ _)

/-! ## Nodes of values -/

theorem nodesOfItems_eq_map (items : List Value) : nodesOfItems items = items.map Node.ofValue := by
  induction items with
  | nil => rfl
  | cons item rest ih => rw [nodesOfItems, ih, List.map_cons]

theorem height_le_heightOfItems {node : Node} {nodes : List Node} (hnode : node ∈ nodes) :
    node.height ≤ heightOfItems nodes := by
  induction nodes with
  | nil => cases hnode
  | cons first rest ih =>
      rw [heightOfItems]
      cases hnode with
      | head => exact Nat.le_max_left _ _
      | tail _ hrest => exact Nat.le_trans (ih hrest) (Nat.le_max_right _ _)

theorem height_le_of_member {m : String × Value} {members : Members} (hm : m ∈ members) :
    (Node.ofValue m.2).height ≤ heightOfMembers (nodesOfMembers members) := by
  induction members with
  | nil => cases hm
  | cons first rest ih =>
      rw [nodesOfMembers, heightOfMembers]
      cases hm with
      | head => exact Nat.le_max_left _ _
      | tail _ hrest => exact Nat.le_trans (ih hrest) (Nat.le_max_right _ _)

/-! ## What readers restore -/

/-- The reader makes this of the value whenever the value is not too deep for the budget. -/
def Reader.Restores {α : Type} (reader : Reader α) (value : Value) (a : α) : Prop :=
  ∀ budget, (Node.ofValue value).height < budget → reader budget (Node.ofValue value) = .ok a

theorem restores_string (s : String) : Reader.Restores readString (.string s) s :=
  fun _ _ => rfl

theorem restores_bool (b : Bool) : Reader.Restores readBool (.bool b) b :=
  fun _ _ => rfl

theorem restores_float (x : Float) : Reader.Restores readFloat (.number (.float x)) x :=
  fun _ _ => rfl

theorem restores_port {port : Nat} (hport : port < 65536) :
    Reader.Restores readPort (.number (.integer port)) port := by
  intro budget _
  have hrange : (0 ≤ (port : Int) && (port : Int) < 65536) = true := by
    rw [Bool.and_eq_true, decide_eq_true_iff, decide_eq_true_iff]
    omega
  rw [Node.ofValue, readPort, liftFault, bind_eq_ok_iff]
  exact ⟨.integer port, rfl, if_pos hrange⟩

theorem restores_choice {α : Type} {choices : List (String × α)} {name : String} {a : α}
    (hname : choices.lookup name = some a) :
    Reader.Restores (readChoice choices .value) (.string name) a := by
  intro budget _
  simp [Node.ofValue, readChoice, liftFault, bind, Except.bind, findChoice, hname]

theorem Reader.Restores.option {α : Type} {reader : Reader α} {value : Value} {a : α}
    (h : reader.Restores value a) (hvalue : value ≠ .null) :
    (readOption reader).Restores value (some a) := by
  intro budget hbudget
  have ha := h budget hbudget
  cases value with
  | null => contradiction
  | bool | number | string | array | object =>
      exact map_eq_ok_iff.mpr ⟨a, ha, rfl⟩

theorem mapM_nodesOfItems {α : Type} {reader : Reader α} {write : α → Value} {as : List α}
    {budget : Nat} (h : ∀ a ∈ as, reader.Restores (write a) a)
    (hbudget : heightOfItems (nodesOfItems (as.map write)) < budget) :
    (nodesOfItems (as.map write)).mapM (reader budget) = .ok as := by
  rw [nodesOfItems_eq_map] at hbudget ⊢
  rw [mapM_eq_ok_iff, List.map_map, List.forall₂_map_left_iff, List.forall₂_same]
  intro a ha
  apply h a ha
  have hnode : Node.ofValue (write a) ∈ (as.map write).map Node.ofValue :=
    List.mem_map_of_mem (List.mem_map_of_mem ha)
  exact Nat.lt_of_le_of_lt (height_le_heightOfItems hnode) hbudget

theorem Reader.Restores.list {α : Type} {reader : Reader α} {write : α → Value} {as : List α}
    (h : ∀ a ∈ as, reader.Restores (write a) a) :
    (readList reader).Restores (.array (as.map write)) as := by
  intro budget hbudget
  cases budget with
  | zero => cases hbudget
  | succ budget =>
      rw [Node.ofValue, readList, mapM_nodesOfItems h (Nat.lt_of_succ_lt_succ hbudget)]
      rfl

theorem readMembersInto_nodesOfMembers {reader : Node → Except ReadError Value}
    {read members : Members} (hkeys : ((read ++ members).map (·.1)).Nodup)
    (hvalues : ∀ m ∈ members, reader (Node.ofValue m.2) = .ok m.2) :
    readMembersInto reader read (nodesOfMembers members) = .ok (read ++ members) := by
  induction members generalizing read with
  | nil => rw [nodesOfMembers, readMembersInto, List.append_nil]
  | cons m rest ih =>
      obtain ⟨key, value⟩ := m
      have hnew : key ∉ read.map (·.1) := by
        rw [List.map_append, List.nodup_append] at hkeys
        intro hold
        exact hkeys.2.2 key hold key (List.mem_map_of_mem List.mem_cons_self) rfl
      have hvalue : reader (Node.ofValue value) = .ok value := hvalues _ List.mem_cons_self
      -- A new key goes to the end, so the members keep their order.
      have hmove : read ++ (key, value) :: rest = read.insert key value ++ rest := by
        rw [Members.insert_of_not_mem hnew, List.append_assoc, List.singleton_append]
      rw [hmove] at hkeys ⊢
      rw [nodesOfMembers, readMembersInto, Key.name, hvalue]
      exact ih hkeys fun m hm => hvalues m (List.mem_cons_of_mem _ hm)

theorem readMembersInto_restores {members : Members} {budget : Nat}
    (hkeys : (members.map (·.1)).Nodup)
    (hvalues : ∀ m ∈ members, Reader.Restores readValue m.2 m.2)
    (hbudget : heightOfMembers (nodesOfMembers members) < budget) :
    readMembersInto (readValue budget) [] (nodesOfMembers members) = .ok members := by
  rw [← List.nil_append members] at hkeys
  apply readMembersInto_nodesOfMembers hkeys
  intro m hm
  exact hvalues m hm budget (Nat.lt_of_le_of_lt (height_le_of_member hm) hbudget)

theorem restores_value {v : Value} (hkeys : v.DistinctKeys) : Reader.Restores readValue v v := by
  induction hkeys with
  | null | bool | number | string =>
      intro budget _
      rw [Node.ofValue, readValue] <;> rfl
  | @array items _ ih =>
      intro budget hbudget
      cases budget with
      | zero => cases hbudget
      | succ budget =>
          rw [← List.map_id' items] at hbudget
          have hitems := mapM_nodesOfItems ih (Nat.lt_of_succ_lt_succ hbudget)
          rw [List.map_id'] at hitems
          rw [Node.ofValue, readValue, hitems]
          rfl
  | object hkeys _ ih =>
      intro budget hbudget
      cases budget with
      | zero => cases hbudget
      | succ budget =>
          rw [Node.ofValue, readValue,
            readMembersInto_restores hkeys ih (Nat.lt_of_succ_lt_succ hbudget)]
          rfl

theorem restores_map {members : Members} (hkeys : (Value.object members).DistinctKeys) :
    Reader.Restores readMap (.object members) members := by
  intro budget hbudget
  cases hkeys with
  | object hkeys hvalues =>
      cases budget with
      | zero => cases hbudget
      | succ budget =>
          rw [Node.ofValue, readMap, readMembersInto_restores hkeys
            (fun m hm => restores_value (hvalues m hm)) (Nat.lt_of_succ_lt_succ hbudget)]
          rfl

/-! ## Types that are read back -/

/-- What the reader reads, from a value or from a text, it reads again from what is written. -/
def ReadsBack {α : Type} (reader : Source → Reader α) (write : α → Value) : Prop :=
  (∀ value a, readFrom reader value = .ok a → readFrom reader (write a) = .ok a) ∧
    ∀ text a, readText reader text = .ok a → readFrom reader (write a) = .ok a

theorem ReadsBack.of_yields {α : Type} {reader : Source → Reader α} {write : α → Value}
    {P : α → Prop} (hyields : ∀ source, (reader source).Yields P)
    (hrestores : ∀ a, P a → (reader .value).Restores (write a) a) : ReadsBack reader write := by
  have hback : ∀ a, P a → readFrom reader (write a) = .ok a :=
    fun a ha => hrestores a ha _ (Nat.lt_succ_self _)
  constructor
  · intro value a hread
    exact hback a (hyields _ _ _ _ hread)
  · intro text a hread
    cases hscan : scan text with
    | mk node rest =>
        rw [readText, hscan] at hread
        obtain ⟨read, hread, hend⟩ := bind_eq_ok_iff.mp hread
        split at hend
        · cases hend
          exact hback a (hyields _ _ _ _ hread)
        · cases hend

end StaticSite.Json
