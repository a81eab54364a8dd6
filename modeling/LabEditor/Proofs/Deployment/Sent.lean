import LabEditor.Proofs.Deployment.Session

/-! What a deployment sends, whatever comes back: the blobs of its files make up each tree, and a tree
goes out if the requests before are answered. -/
namespace LabEditor.Deployment

/-- Nothing but the files of a plan goes into a tree. -/
def Plan.Allows (plan : Plan) : Request → Prop
  | .createTree _ blobs => blobs = plan.blobs
  | _ => True

theorem Plan.asks (plan : Plan) : Asks plan.client plan.Allows plan.steps := by
  refine .bind (.ask trivial) fun head => ?_
  refine .bind (.ask trivial) fun base => ?_
  refine .bind (.ask rfl) fun tree => ?_
  refine .bind (.ask trivial) fun commit => ?_
  refine .bind (.send trivial) fun _ => ?_
  split
  · exact .still fun _ => rfl
  · exact .still fun _ => rfl

/-- The steps send a request over a connection. -/
def Sends (steps : Exchange α) (connection : Connection) (request : Request) : Prop :=
  ∃ call ∈ (Live.on steps connection).2.calls.drop connection.calls.length, call.request = request

theorem sends_iff {steps : Exchange α}
    (reached : (Live.on steps connection).2 = connection.after client sent) :
    Sends steps connection request ↔ request ∈ sent := by
  rw [Sends, reached, Connection.after, List.drop_left]
  constructor
  · rintro ⟨call, member, rfl⟩
    obtain ⟨request, known, rfl⟩ := List.mem_map.mp member
    exact known
  · intro member
    exact ⟨client.call request, List.mem_map.mpr ⟨request, member, rfl⟩, rfl⟩

theorem Plan.blobs_eq (plan : Plan) : plan.blobs = plan.files.map (blob plan.folder) := rfl

theorem Plan.blobs_of_sends {plan : Plan} {blobs : List Blob}
    (sends : Sends plan.steps connection (.createTree base blobs)) : blobs = plan.blobs := by
  obtain ⟨sent, reached, held⟩ := plan.asks connection
  exact held _ ((sends_iff reached).mp sends)

theorem Talk.tree_sent {plan : Plan}
    (talk : Talk limit answer n (plan.stages limit names) sent complete)
    (head : ¬ (answer n (.branchHead plan.branch)).Failed limit)
    (base : ¬ (answer (n + 1) (.commit (.str names.head))).Failed limit) :
    .createTree (.str names.base) plan.blobs ∈ sent := by
  cases talk with
  | failed failed => exact absurd failed head
  | next _ later =>
    cases later with
    | failed failed => exact absurd failed base
    | next _ last =>
      cases last with
      | failed => simp
      | next => simp

/-- A tree is sent as soon as the other side does not fail before. -/
theorem Plan.sends_tree (plan : Plan)
    (fair : ∀ n (request : Request), request.Fair connection.limit (connection.answer n request))
    (head : ∀ n branch, ¬ (connection.answer n (.branchHead branch)).Failed connection.limit)
    (base : ∀ n name, ¬ (connection.answer n (.commit name)).Failed connection.limit) :
    ∃ base, Sends plan.steps connection (.createTree base plan.blobs) := by
  obtain ⟨names, sent, complete, talk, run⟩ := plan.steps_on connection fun n call _ _ => fair n call.request
  have member := talk.tree_sent (head _ _) (base _ _)
  exact ⟨.str names.base, (sends_iff (congrArg Prod.snd run)).mpr member⟩

end LabEditor.Deployment
