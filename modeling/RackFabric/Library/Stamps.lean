import Mathlib.Order.Basic

/-! States that carry a stamp. When every change of the content moves the stamp
up, an unmoved stamp vouches for the content. -/
namespace Stamps

variable {σ τ κ : Type} [Preorder τ] {stamp : σ → τ} {content : σ → κ}

/-- The second state is stamped later, or has the stamp and the content of the first. -/
def Follows (stamp : σ → τ) (content : σ → κ) (first second : σ) : Prop :=
  stamp first < stamp second ∨ (stamp second = stamp first ∧ content second = content first)

namespace Follows

theorem refl (state : σ) : Follows stamp content state state :=
  Or.inr ⟨rfl, rfl⟩

theorem trans {first second third : σ} (hfirst : Follows stamp content first second)
    (hsecond : Follows stamp content second third) : Follows stamp content first third := by
  rcases hfirst with hlt | ⟨hstamp, hcontent⟩
  · rcases hsecond with hlt' | ⟨hstamp', -⟩
    · exact Or.inl (lt_trans hlt hlt')
    · exact Or.inl (hstamp' ▸ hlt)
  · rcases hsecond with hlt' | ⟨hstamp', hcontent'⟩
    · exact Or.inl (hstamp ▸ hlt')
    · exact Or.inr ⟨hstamp'.trans hstamp, hcontent'.trans hcontent⟩

theorem le {first second : σ} (h : Follows stamp content first second) :
    stamp first ≤ stamp second := by
  rcases h with hlt | ⟨hstamp, -⟩
  · exact le_of_lt hlt
  · exact le_of_eq hstamp.symm

/-- An unmoved stamp vouches for the content. -/
theorem content_eq {first second : σ} (h : Follows stamp content first second)
    (hstamp : stamp second = stamp first) : content second = content first := by
  rcases h with hlt | ⟨-, hcontent⟩
  · exact absurd hstamp (ne_of_gt hlt)
  · exact hcontent

/-- What is derived from the content follows with it. -/
theorem map {ι : Type} {first second : σ} (h : Follows stamp content first second)
    (view : κ → ι) : Follows stamp (fun state => view (content state)) first second := by
  rcases h with hlt | ⟨hstamp, hcontent⟩
  · exact Or.inl hlt
  · exact Or.inr ⟨hstamp, congrArg view hcontent⟩

end Follows

end Stamps
