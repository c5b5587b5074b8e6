namespace XrPanel.Text

structure Lead where
  value : Nat
  tail : Nat
  low : Nat
  high : Nat

def lead? (b : UInt8) : Option Lead :=
  let n := b.toNat
  if 0xC2 ≤ n ∧ n ≤ 0xDF then some ⟨n - 0xC0, 1, 0x80, 0xBF⟩
  else if n = 0xE0 then some ⟨0, 2, 0xA0, 0xBF⟩
  else if n = 0xED then some ⟨0xD, 2, 0x80, 0x9F⟩
  else if 0xE1 ≤ n ∧ n ≤ 0xEF then some ⟨n - 0xE0, 2, 0x80, 0xBF⟩
  else if n = 0xF0 then some ⟨0, 3, 0x90, 0xBF⟩
  else if 0xF1 ≤ n ∧ n ≤ 0xF3 then some ⟨n - 0xF0, 3, 0x80, 0xBF⟩
  else if n = 0xF4 then some ⟨4, 3, 0x80, 0x8F⟩
  else none

/-- Reads bytes as UTF-8, after what is known of a sequence that has begun. Each maximal beginning of
a sequence that is never finished becomes one replacement character. -/
def lossyFrom : Option Lead → List UInt8 → List Char
  | none, [] => []
  | some _, [] => ['\uFFFD']
  | none, b :: bs =>
    if b.toNat < 0x80 then Char.ofNat b.toNat :: lossyFrom none bs
    else match lead? b with
      | some l => lossyFrom (some l) bs
      | none => '\uFFFD' :: lossyFrom none bs
  | some l, b :: bs =>
    if l.low ≤ b.toNat ∧ b.toNat ≤ l.high then
      let value := 64 * l.value + (b.toNat - 0x80)
      if l.tail ≤ 1 then Char.ofNat value :: lossyFrom none bs
      else lossyFrom (some ⟨value, l.tail - 1, 0x80, 0xBF⟩) bs
    else '\uFFFD' ::
      (if b.toNat < 0x80 then Char.ofNat b.toNat :: lossyFrom none bs
      else match lead? b with
        | some l' => lossyFrom (some l') bs
        | none => '\uFFFD' :: lossyFrom none bs)

def lossy (bytes : List UInt8) : String := String.ofList (lossyFrom none bytes)

def lossyUpToZero (bytes : List UInt8) : String := lossy (bytes.takeWhile (· != 0))

end XrPanel.Text
