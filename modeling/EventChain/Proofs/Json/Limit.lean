import EventChain.Json.Reader
import EventChain.Proofs.Failure

/-!
# The limit on digits of JSON text

Reading without a limit on the digits of integers never ends in the limit
(`parse_none_not_isLimit`), so a text that reads alike with a limit and without one has no integer
beyond it.
-/

namespace EventChain.Json

def Fault.IsLimit : Fault → Prop
  | digitLimit _ => True
  | _ => False

section
variable {fault : Fault}

theorem stringFrom_not_isLimit {read cs : List Char} (h : stringFrom read cs = .error fault) :
    ¬ fault.IsLimit := by
  fun_induction stringFrom read cs <;> simp_all <;> subst h <;> exact id

theorem number_none_not_isLimit {cs : List Char} (h : number none cs = .error fault) :
    ¬ fault.IsLimit := by
  unfold number at h
  split at h
  split at h
  split at h
  · cases h
    exact id
  split at h
  split at h
  · cases h
  split at h <;> cases h

mutual

theorem value_none_not_isLimit {depth : Nat} {cs : List Char}
    (h : value none depth cs = .error fault) : ¬ fault.IsLimit := by
  cases depth with
  | zero =>
    cases h
    exact id
  | succ depth =>
    unfold value at h
    split at h
    case h_1 =>
      rcases bind_eq_error.mp h with h | ⟨_, -, h⟩
      · exact stringFrom_not_isLimit h
      · cases h
    case h_2 =>
      split at h
      · cases h
      rcases bind_eq_error.mp h with h | ⟨_, -, h⟩
      · exact entriesFrom_none_not_isLimit h
      · cases h
    case h_3 =>
      split at h
      · cases h
      rcases bind_eq_error.mp h with h | ⟨_, -, h⟩
      · exact itemsFrom_none_not_isLimit h
      · cases h
    case h_10 => exact number_none_not_isLimit h
    all_goals cases h

theorem itemsFrom_none_not_isLimit {depth : Nat} {cs : List Char}
    (h : itemsFrom none depth cs = .error fault) : ¬ fault.IsLimit := by
  cases depth with
  | zero =>
    cases h
    exact id
  | succ depth =>
    unfold itemsFrom at h
    rcases bind_eq_error.mp h with h | ⟨⟨item, rest⟩, -, h⟩
    · exact value_none_not_isLimit h
    dsimp only at h
    split at h
    · cases h
    · rcases bind_eq_error.mp h with h | ⟨_, -, h⟩
      · exact itemsFrom_none_not_isLimit h
      · cases h
    · cases h
      exact id

theorem entriesFrom_none_not_isLimit {depth : Nat} {cs : List Char}
    (h : entriesFrom none depth cs = .error fault) : ¬ fault.IsLimit := by
  cases depth with
  | zero =>
    cases h
    exact id
  | succ depth =>
    unfold entriesFrom at h
    split at h
    case h_2 =>
      cases h
      exact id
    rcases bind_eq_error.mp h with h | ⟨⟨key, rest⟩, -, h⟩
    · exact stringFrom_not_isLimit h
    dsimp only at h
    split at h
    case h_2 =>
      cases h
      exact id
    rcases bind_eq_error.mp h with h | ⟨⟨v, rest⟩, -, h⟩
    · exact value_none_not_isLimit h
    dsimp only at h
    split at h
    · cases h
    · rcases bind_eq_error.mp h with h | ⟨_, -, h⟩
      · exact entriesFrom_none_not_isLimit h
      · cases h
    · cases h
      exact id

end

theorem parse_none_not_isLimit {cs : List Char} (h : parse none cs = .error fault) :
    ¬ fault.IsLimit := by
  rcases bind_eq_error.mp h with h | ⟨⟨v, rest⟩, -, h⟩
  · exact value_none_not_isLimit h
  dsimp only at h
  split at h
  · cases h
  · cases h
    exact id

theorem parseText_none_not_isLimit {cs : List Char} (h : parseText none cs = .error fault) :
    ¬ fault.IsLimit := by
  unfold parseText at h
  split at h
  · cases h
    exact id
  · exact parse_none_not_isLimit h

end

end EventChain.Json
