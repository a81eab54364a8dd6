import LabEditor.Proofs.Deployment.Sent
import LabEditor.Proofs.Path.Place
import LabEditor.Proofs.Text.Trimming
import Mathlib

/-! Where the files of a deployment go: under the folder of the lab, as far as there is a segment that
leads into it. The folder is spelled after names that anyone may type. -/
namespace LabEditor.Deployment

/-- A path whose segments are those of a folder and then those of a key, and that does not climb. -/
structure Inside (folder key path : Text) : Prop where
  led : Path.segments folder ≠ []
  made : path = Path.ofSegments (Path.segments folder ++ Path.segments key)
  plain : ∀ segment ∈ Path.segments path, Path.isDots segment = false

/-- A folder that is another one than the root and those above it. -/
structure Proper (folder : Text) : Prop where
  led : Path.segments folder ≠ []
  plain : ∀ segment ∈ Path.segments folder, Path.isDots segment = false

theorem blob_path (folder : Text) (file : Text × Json) :
    (blob folder file).path =
      Path.ofSegments (Path.segments folder ++ Path.segments file.1) := by
  rw [blob, Path.join, List.flatMap_cons, List.flatMap_singleton]

theorem segments_blob (folder : Text) (file : Text × Json) :
    Path.segments (blob folder file).path = Path.segments folder ++ Path.segments file.1 := by
  rw [blob, Path.segments_join, List.flatMap_cons, List.flatMap_singleton]

/-- The key of a file does no harm, so that all depends on the folder. -/
theorem inside_iff_proper {file : Text × Json} (key : Path.IsPlace file.1) :
    Inside folder file.1 (blob folder file).path ↔ Proper folder := by
  constructor
  · rintro ⟨led, _, plain⟩
    refine ⟨led, fun segment member => plain segment ?_⟩
    rw [segments_blob]
    exact List.mem_append_left _ member
  · rintro ⟨led, plain⟩
    refine ⟨led, blob_path folder file, fun segment member => ?_⟩
    rw [segments_blob] at member
    exact (List.mem_append.mp member).elim (plain segment) (key.plain segment)

/-- A name as it stands in the name of a folder. -/
def spelled (name : Text) : Text :=
  Text.squeezeBlanks '_' (Text.trim name)

theorem spelled_free (free : Path.separator ∉ name) : Path.separator ∉ spelled name := by
  intro member
  rcases Text.mem_of_mem_squeezeBlanks member with filler | inside
  · exact absurd filler (by decide)
  · exact free (Text.mem_of_mem_trim inside)

theorem labFolder_ok : labFolder labName authorName = .ok folder ↔ spelled labName ≠ [] ∧
    folder = if (spelled authorName).isEmpty then spelled labName
      else spelled labName ++ ('-' : CodePoint) :: spelled authorName := by
  rw [labFolder, ← spelled, ← spelled]
  cases shape : spelled labName with
  | nil => simp
  | cons c lab =>
    simp only [List.isEmpty_cons, Bool.false_eq_true, if_false, Except.ok.injEq, ne_eq, reduceCtorEq,
      not_false_eq_true, true_and]
    exact eq_comm

/-- Names without slashes make up one segment. -/
theorem labFolder_segment (accepted : labFolder labName authorName = .ok folder)
    (lab : Path.separator ∉ labName) (author : Path.separator ∉ authorName) :
    Path.IsSegment folder := by
  obtain ⟨some, rfl⟩ := labFolder_ok.mp accepted
  split
  · exact ⟨some, spelled_free lab⟩
  · refine ⟨List.append_ne_nil_of_left_ne_nil some _, ?_⟩
    simp only [List.mem_append, List.mem_cons, not_or]
    exact ⟨spelled_free lab, by decide, spelled_free author⟩

theorem isDots_hyphen (s t : Text) : Path.isDots (s ++ ('-' : CodePoint) :: t) = false := by
  rw [Bool.eq_false_iff]
  intro dots
  have hyphen : ('-' : CodePoint) ∈ s ++ ('-' : CodePoint) :: t := by simp
  simp only [Path.isDots, Bool.or_eq_true, beq_iff_eq] at dots
  rcases dots with same | same
  · rw [same] at hyphen
    exact absurd hyphen (by decide)
  · rw [same] at hyphen
    exact absurd hyphen (by decide)

/-- Among the names without slashes only those of the folders that every folder knows are no good, and
these only if no author is given. -/
theorem proper_iff_names (accepted : labFolder labName authorName = .ok folder)
    (lab : Path.separator ∉ labName) (author : Path.separator ∉ authorName) :
    Proper folder ↔ ¬ (Path.isDots (spelled labName) = true ∧ spelled authorName = []) := by
  have segment := Path.segments_segment (labFolder_segment accepted lab author)
  have proper : Proper folder ↔ Path.isDots folder = false := by
    constructor
    · intro proper
      exact proper.plain folder (by simp [segment])
    · intro plain
      exact ⟨by simp [segment], by simpa [segment] using plain⟩
  obtain ⟨_, rfl⟩ := labFolder_ok.mp accepted
  rw [proper]
  -- An author is set apart by a hyphen, which is in neither of the names made of dots.
  cases shape : spelled authorName with
  | nil => simp
  | cons c author =>
    have hyphen := isDots_hyphen (spelled labName) (c :: author)
    simpa using hyphen

/-- Whatever tree is sent, each path in it is made of the folder's segments and all those of the key of
its file. It stays in the folder exactly if the folder leads somewhere and does not climb; names without
slashes see to this unless they come to a dot or two. -/
theorem tree_inside_iff_proper (accepted : labFolder labName authorName = .ok folder)
    (keys : ∀ file ∈ files, Path.IsPlace file.1)
    (sends : Sends (deploy client branch files labName authorName message) connection
      (.createTree base blobs)) :
    List.Forall₂ (fun file blob =>
        blob.path = Path.ofSegments (Path.segments folder ++ Path.segments file.1) ∧
          (Inside folder file.1 blob.path ↔ Proper folder)) files blobs ∧
      (Path.separator ∉ labName → Path.separator ∉ authorName →
        (Proper folder ↔ ¬ (Path.isDots (spelled labName) = true ∧ spelled authorName = []))) := by
  refine ⟨?_, proper_iff_names accepted⟩
  cases some : files.isEmpty with
  | true =>
    obtain ⟨call, member, _⟩ := sends
    rw [deploy_nothing some, List.drop_length] at member
    contradiction
  | false =>
    rw [deploy_steps some accepted] at sends
    rw [Plan.blobs_of_sends sends, Plan.blobs_eq, List.forall₂_map_right_iff, List.forall₂_same]
    exact fun file member => ⟨blob_path folder file, inside_iff_proper (keys file member)⟩

/-- The other side names the head of a branch and the tree of a commit, and does not answer more. -/
def briefly : Request → Reply
  | .branchHead _ => .answer 200 "\x7b\"object\": \x7b\"sha\": \"h1\"\x7d\x7d"
  | .commit _ => .answer 200 "\x7b\"tree\": \x7b\"sha\": \"t1\"\x7d\x7d"
  | _ => .broken

theorem briefly_head (branch : Text) :
    (briefly (.branchHead branch)).Holds 100 (.obj [("object", .obj [("sha", .str "h1")])]) := by cbv

theorem briefly_tree (name : Json) :
    (briefly (.commit name)).Holds 100 (.obj [("tree", .obj [("sha", .str "t1")])]) := by cbv

theorem briefly_fair (request : Request) : request.Fair 100 (briefly request) := by
  cases request with
  | branchHead branch => exact Or.inr ⟨"h1", _, briefly_head branch, rfl⟩
  | commit name => exact Or.inr ⟨"t1", _, briefly_tree name, rfl⟩
  | createTree base blobs => exact Or.inl .broken
  | createCommit message tree parent => exact Or.inl .broken
  | moveBranch branch commit => exact Or.inl .broken

theorem deploy_briefly (some : files.isEmpty = false)
    (accepted : labFolder labName authorName = .ok folder) :
    ∃ base, Sends (deploy client branch files labName authorName message)
      ⟨fun _ => briefly, calls, headers, 100⟩ (.createTree base (files.map (blob folder))) := by
  rw [deploy_steps some accepted]
  exact Plan.sends_tree _ (fun _ => briefly_fair) (fun _ branch => (briefly_head branch).not_failed)
    fun _ name => (briefly_tree name).not_failed

theorem tree_inside_iff_proper_spaced :
    let file : Text × Json := ("step1/run.sh", .str "exit 0")
    let folder : Text := "My_Lab-Jane_Doe"
    labFolder " My  Lab" "Jane Doe" = .ok folder ∧ Path.IsPlace file.1 ∧
      ∃ base, Sends (deploy ⟨"acme", "labs", defaultHost⟩ "main" [file] " My  Lab" "Jane Doe" [])
          ⟨fun _ => briefly, [], [], 100⟩
          (.createTree base [⟨"My_Lab-Jane_Doe/step1/run.sh", "100755", .str "exit 0"⟩]) ∧
        Inside folder file.1 "My_Lab-Jane_Doe/step1/run.sh" := by
  intro file folder
  have accepted : labFolder " My  Lab" "Jane Doe" = .ok folder := rfl
  have key : Path.IsPlace file.1 := ⟨by decide, rfl, by decide⟩
  have some : [file].isEmpty = false := rfl
  obtain ⟨base, sends⟩ := deploy_briefly some accepted
  have keys : ∀ other ∈ [file], Path.IsPlace other.1 := by
    intro other member
    rwa [List.mem_singleton.mp member]
  obtain ⟨inside, named⟩ := tree_inside_iff_proper accepted keys sends
  have proper : Proper folder := (named (by decide) (by decide)).mpr (by decide)
  exact ⟨accepted, key, base, sends, (List.forall₂_cons.mp inside).1.2.mpr proper⟩

/-- A lab whose name is a slash goes to the root of the repository, and one whose name is two dots goes
above it. -/
theorem deploy_outside :
    let client : Client := ⟨"acme", "labs", defaultHost⟩
    let connection : Connection := ⟨fun _ => briefly, [], [], 100⟩
    let file : Text × Json := ("a.md", .str "x")
    Path.IsPlace file.1 ∧
      (labFolder "/" "" = .ok "/" ∧ ¬ Inside "/" "a.md" "a.md" ∧
        ∃ base, Sends (deploy client "main" [file] "/" "" "") connection
          (.createTree base [⟨"a.md", "100644", .str "x"⟩])) ∧
      labFolder ".." "" = .ok ".." ∧ ¬ Inside ".." "a.md" "../a.md" ∧
        ∃ base, Sends (deploy client "main" [file] ".." "" "") connection
          (.createTree base [⟨"../a.md", "100644", .str "x"⟩]) := by
  intro client connection file
  have root : labFolder "/" "" = .ok "/" := rfl
  have above : labFolder ".." "" = .ok ".." := rfl
  refine ⟨⟨by decide, rfl, by decide⟩, ⟨root, ?_, deploy_briefly rfl root⟩,
    above, ?_, deploy_briefly rfl above⟩
  · intro inside
    exact inside.led (by decide)
  · intro inside
    exact absurd (inside.plain ".." (by decide)) (by decide)

end LabEditor.Deployment
