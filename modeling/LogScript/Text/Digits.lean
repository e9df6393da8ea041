namespace LogScript.Text

/-- The value of a hexadecimal digit of either case. -/
def hexValue? (c : Char) : Option Nat :=
  if '0' ≤ c ∧ c ≤ '9' then some (c.toNat - 48)
  else if 'a' ≤ c ∧ c ≤ 'f' then some (c.toNat - 87)
  else if 'A' ≤ c ∧ c ≤ 'F' then some (c.toNat - 55)
  else none

/-- The value of a row of hexadecimal digits; nothing if another character is among them. -/
def hexNumber? (cs : List Char) : Option Nat :=
  cs.foldl (fun acc c => do let n ← acc; let d ← hexValue? c; return 16 * n + d) (some 0)

/-- Four hexadecimal digits, which write the numbers below 65536. -/
def hex4 (n : Nat) : List Char :=
  [(n / 4096 % 16).digitChar, (n / 256 % 16).digitChar, (n / 16 % 16).digitChar,
    (n % 16).digitChar]

/-- The number written by decimal digits, if there is a digit and nothing else. -/
def decimal? (cs : List Char) : Option Nat :=
  if cs ≠ [] ∧ cs.all Char.isDigit then some (Nat.ofDigitChars 10 cs 0) else none

theorem hexValue?_digitChar {d : Nat} (h : d < 16) : hexValue? d.digitChar = some d := by
  rcases d with _ | _ | _ | _ | _ | _ | _ | _ | _ | _ | _ | _ | _ | _ | _ | _ | d
  all_goals first | rfl | omega

theorem hexNumber?_hex4 {n : Nat} (h : n < 65536) : hexNumber? (hex4 n) = some n := by
  have h1 := hexValue?_digitChar (Nat.mod_lt (n / 4096) (by decide : 0 < 16))
  have h2 := hexValue?_digitChar (Nat.mod_lt (n / 256) (by decide : 0 < 16))
  have h3 := hexValue?_digitChar (Nat.mod_lt (n / 16) (by decide : 0 < 16))
  have h4 := hexValue?_digitChar (Nat.mod_lt n (by decide : 0 < 16))
  simp only [hexNumber?, hex4, List.foldl_cons, List.foldl_nil, Option.bind_eq_bind,
    Option.bind_some, h1, h2, h3, h4, Option.pure_def, Option.some.injEq]
  omega

theorem decimal?_toDigits (n : Nat) : decimal? (Nat.toDigits 10 n) = some n := by
  have hd : (Nat.toDigits 10 n).all Char.isDigit = true :=
    List.all_eq_true.mpr fun c hc => Nat.isDigit_of_mem_toDigits (by decide) (by decide) hc
  simp [decimal?, hd, Nat.ofDigitChars_ten_toDigits, Nat.toDigits_ne_nil]

theorem toList_repr_negSucc (n : Nat) :
    (Int.negSucc n).repr.toList = '-' :: Nat.toDigits 10 (n + 1) := by
  change ("-" ++ (n + 1).repr).toList = _
  simp

end LogScript.Text
