import EventChain.Config
import EventChain.Proofs.Failure
import EventChain.Proofs.Value.Coercion
import Mathlib.Data.List.TakeWhile

/-!
# Integers of JSON text

Reading refuses integers of too many digits, so a value that was read has none
(`writable_of_parse`), and a config decodes to a writable value if it is one itself
(`Config.writable_of_decode`).
-/

namespace EventChain

namespace Json

open Value (AllWritable EntriesWritable)

theorem asciiDigits_lt (cs : List Char) : ∀ d ∈ (asciiDigits cs).1, d < 10 := by
  intro d hd
  obtain ⟨c, hc, rfl⟩ := List.mem_map.mp hd
  have hdigit := List.mem_takeWhile_imp hc
  simp only [Char.isDigit, Bool.and_eq_true, decide_eq_true_eq] at hdigit
  have hcode : c.toNat ≤ 57 := hdigit.2
  omega

theorem writable_of_number {cs rest : List Char} {v : Value}
    (h : number (some DigitLimit.most) cs = .ok (v, rest)) : v.Writable := by
  unfold number at h
  split at h
  next negative body _ =>
  split at h
  next whole tail hwhole =>
  have hdigits : ∀ d ∈ whole, d < 10 := by
    split at hwhole
    · cases hwhole
      simp
    · have hlt := asciiDigits_lt body
      rwa [hwhole] at hlt
  split at h
  · cases h
  split at h
  split at h
  · cases h
    trivial
  split at h
  · split at h
    · cases h
    · next hlen =>
      cases h
      exact Number.writable_of_digits hdigits (by simpa using hlen)
  · cases h
    trivial

mutual

theorem writable_of_value {depth : Nat} {cs rest : List Char} {v : Value}
    (h : value (some DigitLimit.most) depth cs = .ok (v, rest)) : v.Writable := by
  cases depth with
  | zero => cases h
  | succ depth =>
    unfold value at h
    split at h
    · obtain ⟨⟨s, tail⟩, -, h⟩ := bind_eq_ok.mp h
      cases h
      trivial
    · split at h
      · cases h
        trivial
      · obtain ⟨⟨entries, tail⟩, he, h⟩ := bind_eq_ok.mp h
        cases h
        exact Record.writable_ofEntries (writable_of_entriesFrom he)
    · split at h
      · cases h
        trivial
      · obtain ⟨⟨items, tail⟩, hi, h⟩ := bind_eq_ok.mp h
        cases h
        exact writable_of_itemsFrom hi
    case h_10 => exact writable_of_number h
    all_goals
      cases h
      trivial

theorem writable_of_itemsFrom {depth : Nat} {cs rest : List Char} {items : List Value}
    (h : itemsFrom (some DigitLimit.most) depth cs = .ok (items, rest)) : AllWritable items := by
  cases depth with
  | zero => cases h
  | succ depth =>
    unfold itemsFrom at h
    obtain ⟨⟨item, rest⟩, hv, h⟩ := bind_eq_ok.mp h
    dsimp only at h
    split at h
    · cases h
      exact ⟨writable_of_value hv, trivial⟩
    · obtain ⟨⟨items, tail⟩, hi, h⟩ := bind_eq_ok.mp h
      cases h
      exact ⟨writable_of_value hv, writable_of_itemsFrom hi⟩
    · cases h

theorem writable_of_entriesFrom {depth : Nat} {cs rest : List Char}
    {entries : List (String × Value)}
    (h : entriesFrom (some DigitLimit.most) depth cs = .ok (entries, rest)) :
    EntriesWritable entries := by
  cases depth with
  | zero => cases h
  | succ depth =>
    unfold entriesFrom at h
    split at h
    · obtain ⟨⟨key, rest⟩, -, h⟩ := bind_eq_ok.mp h
      dsimp only at h
      split at h
      · obtain ⟨⟨v, rest⟩, hv, h⟩ := bind_eq_ok.mp h
        dsimp only at h
        split at h
        · cases h
          exact ⟨writable_of_value hv, trivial⟩
        · obtain ⟨⟨entries, tail⟩, he, h⟩ := bind_eq_ok.mp h
          cases h
          exact ⟨writable_of_value hv, writable_of_entriesFrom he⟩
        · cases h
      · cases h
    · cases h

end

theorem writable_of_parse {cs : List Char} {v : Value}
    (h : parse (some DigitLimit.most) cs = .ok v) : v.Writable := by
  obtain ⟨⟨w, rest⟩, hw, h⟩ := bind_eq_ok.mp h
  dsimp only at h
  split at h
  · cases h
    exact writable_of_value hw
  · cases h

end Json

namespace Config

theorem ofJson_eq_ok {α : Type} {x : Except Json.Fault α} {a : α} :
    ofJson x = .ok a ↔ x = .ok a := by
  unfold ofJson
  split <;> simp

/-- The value that a config decodes to is writable if the config is; one in text is so anyway. -/
theorem writable_of_decode {config v : Value} (h : decode config = .ok v)
    (hc : config.Writable) : v.Writable := by
  unfold decode at h
  split at h
  · cases h
    trivial
  · have hp := ofJson_eq_ok.mp h
    unfold Json.parseText at hp
    split at hp
    · cases hp
    · exact Json.writable_of_parse hp
  · split at h
    · exact Json.writable_of_parse (ofJson_eq_ok.mp h)
    · cases h
  · cases h
    exact hc

theorem writable_of_operand? {v : Value} {n : Number} (h : operand? v = some n)
    (hv : v.Writable) : n.Writable := by
  unfold operand? at h
  split at h
  · exact Number.Writable.of_finite? hv h
  · split at h
    · cases h
    · exact Number.writable_of_ofText? h
  · cases h

end Config

end EventChain
