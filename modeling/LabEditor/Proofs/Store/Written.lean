import LabEditor.Proofs.Store.Soundness

/-! Reading a record puts right what may be wrong with it. A record that was read, or made by a call,
has nothing left to be put right, and is what one reads from its written form. -/
namespace LabEditor.Record.Written
variable {record : Written}

/-- The name that is read for a record. -/
def nameOf (given path : Json) : Except Fault Json :=
  if given.truthy then .ok given
  else match path with
    | .str t => .ok (.str (Path.basename t))
    | _ => .error .notText

/-- The content that is read for a record. -/
def contentOf (value : Json) (isDirectory : Bool) : Except Fault Json :=
  if isDirectory then .ok (.str []) else value.memberOr "content" (.str [])

/-- Reads a record member by member. -/
def ofMembers (value : Json) : Except Fault Written := do
  let path ← value.member "path"
  let flag ← value.memberOr "isDirectory" (.bool false)
  let given ← value.memberOr "name" .null
  let name ← nameOf given path
  let content ← contentOf value flag.truthy
  pure ⟨name, path, content, flag.truthy⟩

theorem ofJson_ofMembers (value : Json) : ofJson value = ofMembers value := by
  rw [ofJson, ofMembers]
  cases value.member "path" with
  | error cause => rfl
  | ok path =>
    cases value.memberOr "isDirectory" (.bool false) with
    | error cause => rfl
    | ok flag =>
      cases value.memberOr "name" .null with
      | error cause => rfl
      | ok given =>
        simp only [Outcome.ok_bind, nameOf, contentOf]
        cases given.truthy <;> cases flag.truthy <;> cases path <;> rfl

/-- Reading changes nothing in the record. -/
structure Stable (record : Written) : Prop where
  name : nameOf record.name record.path = .ok record.name
  bare : record.isDirectory = true → record.content = .str []

theorem nameOf_again {given path name : Json} (named : nameOf given path = .ok name) :
    nameOf name path = .ok name := by
  simp only [nameOf] at named ⊢
  split at named
  · rename_i truthy
    cases named
    exact if_pos truthy
  · split at named
    · cases named
      exact ite_self _
    · contradiction

theorem ofJson_stable (read : ofJson value = .ok record) : record.Stable := by
  rw [ofJson_ofMembers] at read
  obtain ⟨path, _, read⟩ := Outcome.bind_ok.mp read
  obtain ⟨flag, _, read⟩ := Outcome.bind_ok.mp read
  obtain ⟨given, _, read⟩ := Outcome.bind_ok.mp read
  obtain ⟨name, named, read⟩ := Outcome.bind_ok.mp read
  obtain ⟨content, held, same⟩ := Outcome.bind_ok.mp read
  cases same
  refine ⟨nameOf_again named, fun folder => ?_⟩
  rw [contentOf, if_pos folder] at held
  exact (Except.ok.inj held).symm

theorem ofJson_toJson (stable : record.Stable) : ofJson record.toJson = .ok record := by
  have content : contentOf record.toJson record.isDirectory = .ok record.content := by
    rw [contentOf]
    split
    · rename_i folder
      rw [stable.bare folder]
    · rfl
  have path : record.toJson.member "path" = .ok record.path := rfl
  have flag : record.toJson.memberOr "isDirectory" (.bool false) = .ok (.bool record.isDirectory) := rfl
  have given : record.toJson.memberOr "name" .null = .ok record.name := rfl
  simp only [ofJson_ofMembers, ofMembers, path, flag, given, Outcome.ok_bind, stable.name, Json.truthy,
    content]
  rfl

end Written

theorem SoundAt.stable {path : Text} {record : Record} (sound : SoundAt path record) :
    record.written.Stable := by
  refine ⟨?_, sound.bare⟩
  have name : record.name = .str (Path.basename record.path) := by rw [sound.own, sound.name]
  simp only [written, Written.nameOf, name]
  exact ite_self _

end LabEditor.Record
