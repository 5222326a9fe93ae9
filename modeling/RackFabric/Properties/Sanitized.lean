import RackFabric.Model.Agent

/-! The identity that an agent makes of a host name. What is filtered out brings dots
together, which an identity may not hold side by side. -/
namespace RackFabric

def dot : UInt8 := 0x2E

theorem isIdentityChar_of_isSanitary {u : UInt8} (h : isSanitary u = true) :
    isIdentityChar u = true := by
  have hevery : ∀ value : Fin 256, isSanitary (UInt8.ofFin value) = true →
      isIdentityChar (UInt8.ofFin value) = true := by decide +kernel
  exact hevery u.toFin h

theorem isSanitary_dot : isSanitary dot = true := by decide

/-- There is a first pair of dots exactly when there is one at all. -/
theorem findDotDot_eq_none_iff (value : Str) :
    findDotDot value = none ↔ ∀ before after, value ≠ before ++ dot :: dot :: after := by
  induction value with
  | nil => simp [findDotDot]
  | cons first rest ih =>
    cases rest with
    | nil =>
      refine iff_of_true rfl fun before after h => ?_
      have hlength := congrArg List.length h
      simp at hlength
      omega
    | cons second rest =>
      rw [findDotDot]
      split
      · rename_i hdots
        refine iff_of_false (by simp) fun h => h [] rest ?_
        rw [hdots.1, hdots.2]
        rfl
      · rename_i hdots
        rw [Option.map_eq_none_iff, ih]
        constructor
        · intro h before after heq
          cases before with
          | nil =>
            simp only [List.nil_append, List.cons.injEq] at heq
            exact hdots ⟨heq.1, heq.2.1⟩
          | cons head before =>
            simp only [List.cons_append, List.cons.injEq] at heq
            exact h before after heq.2
        · intro h before after heq
          exact h (first :: before) after (by rw [heq]; rfl)

/-- A pair of dots with nothing but dropped bytes between them, inside of what is kept at
most, and not all that is kept. -/
def MeetingDots (value : Str) : Prop :=
  ∃ before between after, value = before ++ dot :: (between ++ dot :: after) ∧
    (∀ u ∈ between, isSanitary u = false) ∧
    before.countP isSanitary + 2 ≤ kMaxIdentityLength ∧ (before ++ after).any isSanitary = true

theorem filter_eq_dots_iff {value left right : Str} :
    value.filter isSanitary = left ++ dot :: dot :: right ↔
      ∃ before between after, value = before ++ dot :: (between ++ dot :: after) ∧
        (∀ u ∈ between, isSanitary u = false) ∧ before.filter isSanitary = left ∧
        after.filter isSanitary = right := by
  constructor
  · intro h
    obtain ⟨front, back, rfl, hfront, hback⟩ := List.filter_eq_append_iff.mp h
    obtain ⟨dropped, rest, rfl, hdropped, -, hrest⟩ := List.filter_eq_cons_iff.mp hback
    obtain ⟨between, after, rfl, hbetween, -, hafter⟩ := List.filter_eq_cons_iff.mp hrest
    refine ⟨front ++ dropped, between, after, by simp, by simpa using hbetween, ?_, hafter⟩
    rw [List.filter_append, hfront, List.filter_eq_nil_iff.mpr hdropped, List.append_nil]
  · rintro ⟨before, between, after, rfl, hbetween, rfl, rfl⟩
    have hnone : between.filter isSanitary = [] :=
      List.filter_eq_nil_iff.mpr (by simpa using hbetween)
    simp [hnone, isSanitary_dot]

/-- The meeting dots in what is kept. -/
theorem meetingDots_iff (value : Str) :
    MeetingDots value ↔ ∃ left right, value.filter isSanitary = left ++ dot :: dot :: right ∧
      left.length + 2 ≤ kMaxIdentityLength ∧ left ++ right ≠ [] := by
  have hany (before after : Str) : (before ++ after).any isSanitary = true ↔
      before.filter isSanitary ++ after.filter isSanitary ≠ [] := by
    rw [← List.filter_append, ne_eq, List.filter_eq_nil_iff, List.any_eq_true]
    push Not
    rfl
  constructor
  · rintro ⟨before, between, after, hvalue, hbetween, hshort, hmore⟩
    refine ⟨before.filter isSanitary, after.filter isSanitary,
      filter_eq_dots_iff.mpr ⟨before, between, after, hvalue, hbetween, rfl, rfl⟩, ?_,
      (hany before after).mp hmore⟩
    rwa [← List.countP_eq_length_filter]
  · rintro ⟨left, right, hkept, hshort, hmore⟩
    obtain ⟨before, between, after, hvalue, hbetween, rfl, rfl⟩ := filter_eq_dots_iff.mp hkept
    refine ⟨before, between, after, hvalue, hbetween, ?_, (hany before after).mpr hmore⟩
    rwa [List.countP_eq_length_filter]

/-- Of the checks of an identity, only that for dots can fail on a short text of identity
characters. -/
theorem validateIdentity_iff {value : Str} (hne : value ≠ [])
    (hshort : value.length ≤ kMaxIdentityLength) (hchars : ∀ u ∈ value, isIdentityChar u = true)
    (hdot : value ≠ str ".") (hdots : value ≠ str "..") :
    (validateIdentity value).ok = true ↔ findDotDot value = none := by
  have hindex : value.findIdx? (fun u => !isIdentityChar u) = none := by
    rw [List.findIdx?_eq_none_iff]
    intro u hu
    simp [hchars u hu]
  have hreserved : ¬ (value = str "." ∨ value = str "..") := not_or.mpr ⟨hdot, hdots⟩
  simp only [validateIdentity, hne, Nat.not_lt.mpr hshort, hindex, if_neg hreserved, if_false]
  cases findDotDot value <;> simp [IdentityValidation.ok]

theorem take_eq_dots_iff {value : Str} {count : Nat} :
    (∃ left right, value.take count = left ++ dot :: dot :: right) ↔
      ∃ left right, value = left ++ dot :: dot :: right ∧ left.length + 2 ≤ count := by
  constructor
  · rintro ⟨left, right, htake⟩
    refine ⟨left, right ++ value.drop count, ?_, ?_⟩
    · calc value = value.take count ++ value.drop count := (List.take_append_drop _ _).symm
        _ = _ := by rw [htake]; simp
    · have hlength := congrArg List.length htake
      simp only [List.length_take, List.length_append, List.length_cons] at hlength
      omega
  · rintro ⟨left, right, rfl, hcount⟩
    refine ⟨left, right.take (count - (left.length + 2)), ?_⟩
    rw [List.take_append, List.take_of_length_le (by omega)]
    have hroom : count - left.length = count - (left.length + 2) + 2 := by omega
    rw [hroom, List.take_succ_cons, List.take_succ_cons]

/-- What is kept of a host name, cut to the length of an identity, is one exactly when no
dots meet in it. -/
theorem validateIdentity_kept {value : Str} (hne : value.filter isSanitary ≠ [])
    (hdot : value.filter isSanitary ≠ str ".") (hdots : value.filter isSanitary ≠ str "..") :
    (validateIdentity ((value.filter isSanitary).take kMaxIdentityLength)).ok = true ↔
      ¬ MeetingDots value := by
  have hchars : ∀ u ∈ (value.filter isSanitary).take kMaxIdentityLength,
      isIdentityChar u = true := fun u hu =>
    isIdentityChar_of_isSanitary (List.mem_filter.mp (List.mem_of_mem_take hu)).2
  have huncut {text : Str} (htext : text.length < kMaxIdentityLength)
      (h : (value.filter isSanitary).take kMaxIdentityLength = text) :
      value.filter isSanitary = text := by
    have hlength := congrArg List.length h
    rw [List.length_take] at hlength
    rwa [List.take_of_length_le (by omega)] at h
  rw [validateIdentity_iff (fun h => hne (huncut (by decide) h)) (List.length_take_le _ _) hchars
    (fun h => hdot (huncut (by decide) h)) (fun h => hdots (huncut (by decide) h)),
    findDotDot_eq_none_iff, meetingDots_iff]
  constructor
  · rintro hnone ⟨left, right, hkept, hshort, -⟩
    obtain ⟨before, after, htake⟩ := take_eq_dots_iff.mpr ⟨left, right, hkept, hshort⟩
    exact hnone before after htake
  · intro hmeeting before after htake
    obtain ⟨left, right, hkept, hshort⟩ := take_eq_dots_iff.mp ⟨before, after, htake⟩
    refine hmeeting ⟨left, right, hkept, hshort, fun hnone => hdots ?_⟩
    obtain ⟨rfl, rfl⟩ := List.append_eq_nil_iff.mp hnone
    exact hkept

/-- A host name is made into an identity, and an agent has a worker to start as, exactly
when no dots meet in it. -/
theorem sanitized_valid_iff (hostName : Str) :
    ((validateIdentity (sanitize hostName)).ok = true ∧
      ∀ worker, ∃ started, startWorker worker hostName = some started) ↔
      ¬ MeetingDots hostName := by
  have hworker : (∀ worker, ∃ started, startWorker worker hostName = some started) ↔
      (validateIdentity (sanitize hostName)).ok = true := by
    unfold startWorker StrongId.parse
    by_cases hvalid : (validateIdentity (sanitize hostName)).ok = true <;> simp [hvalid]
  rw [hworker, and_self]
  by_cases hreplaced : hostName.filter isSanitary = [] ∨ hostName.filter isSanitary = str "." ∨
      hostName.filter isSanitary = str ".."
  · have hlocal : sanitize hostName = str "local" := if_pos hreplaced
    rw [hlocal]
    refine iff_of_true (by decide) fun hmeeting => ?_
    obtain ⟨left, right, hkept, -, hmore⟩ := (meetingDots_iff hostName).mp hmeeting
    have hlength : (hostName.filter isSanitary).length ≤ 2 := by
      rcases hreplaced with h | h | h <;> rw [h] <;> decide
    rw [hkept] at hlength
    simp only [List.length_append, List.length_cons] at hlength
    apply hmore
    rw [List.append_eq_nil_iff, ← List.length_eq_zero_iff, ← List.length_eq_zero_iff]
    omega
  · have hkept : sanitize hostName = (hostName.filter isSanitary).take kMaxIdentityLength :=
      if_neg hreplaced
    simp only [not_or] at hreplaced
    rw [hkept]
    exact validateIdentity_kept hreplaced.1 hreplaced.2.1 hreplaced.2.2

/-- A slash between two dots is dropped. -/
theorem meeting_dots_invalid :
    ¬ ∀ hostName, (validateIdentity (sanitize hostName)).ok = true := by
  intro h
  exact absurd (h (str "rack./.7")) (by decide)

end RackFabric
