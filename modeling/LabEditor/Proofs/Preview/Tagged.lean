import LabEditor.Preview.Basic
import LabEditor.Proofs.Scan
import LabEditor.Proofs.Text.Trimming
import Mathlib.Data.List.Infix

/-! Texts in which every tag is one of a given list. Nothing that begins with another tag is read
anywhere in such a text, whatever follows it. -/
namespace LabEditor.Preview

variable {t u front behind start : Text} {tags : List Text}

/-- Nothing that begins with a tag is read where no tag is. -/
theorem after?_apart (apart : t.head? ≠ some ('<' : CodePoint)) : Text.after? ('<' :: start) t = none := by
  cases t with
  | nil => rfl
  | cons c t => exact Text.after?_head_ne (fun same => apart (congrArg some same.symm)) start t

/-- What is read at the front is found there. -/
theorem upTo?_here {α : Type} {value : α} {rest : Text} {read? : Text → Option (α × Text)}
    (found : read? t = some (value, rest)) : upTo? read? t = some ([], value, rest) := by
  cases t <;> simp only [upTo?, found, Option.map_some]

/-- What is looked for stands behind a text in which it begins nowhere. -/
theorem upTo?_skip {α : Type} {read? : Text → Option (α × Text)}
    (unread : ∀ u, u <:+ front → u ≠ [] → read? (u ++ behind) = none) :
    upTo? read? (front ++ behind) = (upTo? read? behind).map fun (t, found) => (front ++ t, found) := by
  induction front with
  | nil => cases found : upTo? read? behind <;> simp [found]
  | cons c front ih =>
    have here := unread (c :: front) List.suffix_rfl (List.cons_ne_nil c front)
    have later := ih fun u part => unread u (part.trans (List.suffix_cons c front))
    rw [List.cons_append] at here ⊢
    rw [upTo?, here, later, Option.map_map]
    rfl

/-- A text in which every tag is one of the given ones. -/
def Tagged (tags : List Text) (t : Text) : Prop :=
  ∀ u, u <:+ t → u.head? = some ('<' : CodePoint) → ∃ tag ∈ tags, tag <+: u

/-- A tag that is none of the given ones, nor a beginning of one, nor begins with one. -/
def Apart (tag : Text) (tags : List Text) : Prop :=
  ∀ other ∈ tags, ¬ tag <+: other ∧ ¬ other <+: tag

instance (tag : Text) (tags : List Text) : Decidable (Apart tag tags) :=
  inferInstanceAs (Decidable (∀ other ∈ tags, _ ∧ _))

namespace Tagged

theorem of_free (free : ('<' : CodePoint) ∉ t) : Tagged tags t :=
  fun _ part first => absurd (part.subset (List.mem_of_mem_head? first)) free

theorem of_tails (each : ∀ u ∈ t.tails, u.head? = some ('<' : CodePoint) → ∃ tag ∈ tags, tag <+: u) :
    Tagged tags t :=
  fun u part => each u ((List.mem_tails _ _).mpr part)

theorem suffix (tagged : Tagged tags t) (part : u <:+ t) : Tagged tags u :=
  fun _ inside => tagged _ (inside.trans part)

theorem mono {others : List Text} (coarser : ∀ tag ∈ tags, ∃ other ∈ others, other <+: tag)
    (tagged : Tagged tags t) : Tagged others t := by
  intro u part first
  obtain ⟨tag, known, begins⟩ := tagged u part first
  obtain ⟨other, there, shorter⟩ := coarser tag known
  exact ⟨other, there, shorter.trans begins⟩

theorem append (left : Tagged tags front) (right : Tagged tags behind) :
    Tagged tags (front ++ behind) := by
  intro u part first
  rcases suffix_append part with ⟨start, some, inside, rfl⟩ | later
  · rw [List.head?_append_of_ne_nil _ some] at first
    obtain ⟨tag, known, begins⟩ := left start inside first
    exact ⟨tag, known, begins.trans (List.prefix_append _ _)⟩
  · exact right u later first

theorem flatMap {α : Type} {write : α → Text} {xs : List α}
    (each : ∀ x ∈ xs, Tagged tags (write x)) : Tagged tags (xs.flatMap write) := by
  induction xs with
  | nil => exact .of_free List.not_mem_nil
  | cons x xs ih =>
    rw [List.flatMap_cons]
    obtain ⟨here, others⟩ := List.forall_mem_cons.mp each
    exact here.append (ih others)

theorem shape (tagged : Tagged tags t) :
    t.head? ≠ some ('<' : CodePoint) ∨ ∃ tag ∈ tags, ∃ behind, t = tag ++ behind := by
  by_cases first : t.head? = some ('<' : CodePoint)
  · obtain ⟨tag, known, behind, same⟩ := tagged t List.suffix_rfl first
    exact Or.inr ⟨tag, known, behind, same.symm⟩
  · exact Or.inl first

/-- Another tag is read nowhere in the text, whatever follows it. -/
theorem unread (tagged : Tagged tags front) (apart : Apart ('<' :: start) tags) (part : u <:+ front)
    (some : u ≠ []) (behind : Text) : Text.after? ('<' :: start) (u ++ behind) = none := by
  by_cases first : u.head? = .some '<'
  · obtain ⟨tag, known, begins⟩ := tagged u part first
    obtain ⟨other, shorter⟩ := apart tag known
    rw [← Option.not_isSome_iff_eq_none]
    intro read
    have here : ('<' : CodePoint) :: start <+: u ++ behind := Text.startsWith_iff.mp read
    have there : tag <+: u ++ behind := begins.trans (List.prefix_append _ _)
    exact (List.prefix_or_prefix_of_prefix here there).elim other shorter
  · refine after?_apart ?_
    rwa [List.head?_append_of_ne_nil _ some]

end Tagged

/-- The tags of a page of paragraphs, code blocks and styled code blocks. -/
def pageTags : List Text :=
  ["<div class=\"", "<pre><code>", "<code>", "</code></pre>", "</pre>", "</div>", "<p>", "</p>"]

namespace Tagged

/-- No marker follows a code span: behind the end of code stands the end of its block. -/
theorem no_inline (tagged : Tagged pageTags t) (before : Option CodePoint) :
    inlinePattern before t = none := by
  cases opened : Text.after? "<code>" t with
  | none => simp only [inlinePattern, opened, Option.bind_eq_bind, Option.bind_none]
  | some inner =>
    have part : (Text.splitWhen (· == '<') inner).2 <:+ t :=
      (Text.splitWhen_suffix _ inner).trans (Text.after?_suffix opened)
    have unmarked : (Text.after? "</code>" (Text.splitWhen (· == '<') inner).2).bind
        (fun rest => marker? (Text.trimStart rest)) = none := by
      rcases (tagged.suffix part).shape with apart | ⟨tag, known, behind, same⟩
      · have unread : Text.after? "</code>" (Text.splitWhen (· == '<') inner).2 = none :=
          after?_apart apart
        rw [unread]
        rfl
      · rw [same]
        simp only [pageTags, List.mem_cons, List.not_mem_nil, or_false] at known
        rcases known with rfl | rfl | rfl | rfl | rfl | rfl | rfl | rfl <;> rfl
    rw [inlinePattern, opened]
    simp only [Option.bind_eq_bind, Option.bind_some]
    rw [← Option.bind_assoc, unmarked]
    rfl

/-- No link to another host stands on the page. -/
theorem no_host (tagged : Tagged pageTags t) (before : Option CodePoint) : hostPattern before t = none := by
  have unlinked : Text.after? "<a href=\"" t = none := by
    rcases tagged.shape with apart | ⟨tag, known, behind, rfl⟩
    · exact after?_apart apart
    · simp only [pageTags, List.mem_cons, List.not_mem_nil, or_false] at known
      rcases known with rfl | rfl | rfl | rfl | rfl | rfl | rfl | rfl <;> rfl
  simp only [hostPattern, unlinked, Option.bind_eq_bind, Option.bind_none]

theorem replaced (tagged : Tagged pageTags t) :
    hostPattern.replace openOutside (inlinePattern.replace id t) = t := by
  rw [Pattern.replace_eq_self fun before _ _ part => (tagged.suffix part).no_inline before,
    Pattern.replace_eq_self fun before _ _ part => (tagged.suffix part).no_host before]

end Tagged

end LabEditor.Preview
