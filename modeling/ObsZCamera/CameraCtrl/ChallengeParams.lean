import ObsZCamera.CameraCtrl.Digest
import ObsZCamera.Misc.ParamList

/-!
# The parameters of a challenge

`digestParam` (`zc_http_transport.cpp:74-105`) is the scanner of parameter lists whose quoted
values end at the next quote. On a well-formed list it finds the first parameter with the key, and
`parseChallenge` reads a challenge off the list as it was written.
-/

namespace ObsZCamera.CameraCtrl

open QByteArray

theorem digestParamLoop_eq_findParam (key : Bytes) (fuel : Nat) (src : Bytes) :
    digestParamLoop key fuel src = findParam plainQuoted key fuel src := by
  induction fuel generalizing src with
  | zero => rfl
  | succ fuel ih =>
    rw [digestParamLoop, findParam]
    cases indexOf 0x3d src with
    | none => rfl
    | some eq =>
      simp only [scannedKey, scannedValue, ih]
      split
      · generalize src.drop (eq + 1) = value
        rw [show plainQuoted (value.drop 1) = (indexOf 0x22 (value.drop 1)).map _ from rfl]
        cases indexOf 0x22 (value.drop 1) with
        | none => rfl
        | some stop =>
          have hdrop : (value.drop 1).drop (stop + 1) = value.drop (stop + 2) := by
            rw [List.drop_drop, Nat.add_comm]
          simp only [Option.map_some, hdrop]
          rfl
      · rfl

theorem digestParam_eq_findParam (src key : Bytes) :
    digestParam src key = findParam plainQuoted key src.length src :=
  digestParamLoop_eq_findParam key src.length src

theorem digestParam_of_paramList {ps : List Param} {src : Bytes} (h : ParamList ps src)
    (key : Bytes) : digestParam src key = lookupParam key ps := by
  have hread : ∀ p ∈ ps, p.value.ReadBy plainQuoted := fun p hp => (h.plain p hp).readBy
  rw [digestParam_eq_findParam, findParam_eq_lookupParam h hread]

theorem isSpace_of_toLower {c : UInt8}
    (h : (if 0x41 ≤ c ∧ c ≤ 0x5a then c + 0x20 else c) = UInt8.ofNat 'd'.toNat) :
    isSpace c = false := by
  split at h
  · rename_i hletter
    have hlt : ¬ c ≤ 0x0d := fun hle => absurd (UInt8.le_trans hletter.1 hle) (by decide)
    have hne : c ≠ 0x20 := by
      rintro rfl
      exact absurd hletter.1 (by decide)
    simp [isSpace, hlt, hne]
  · rw [h]
    rfl

/-- A challenge is read off the parameters of its list. -/
theorem readChallenge_of_paramList {reply : Reply} {scheme gap src : Bytes} {ps : List Param}
    (hheader : challengeHeader reply = scheme ++ (gap ++ src))
    (hscheme : toLower scheme = ascii "digest") (hgap : Blank gap) (hsrc : trimmed src = src)
    (hparams : ParamList ps src) (hnonce : lookupParam (ascii "nonce") ps ≠ []) :
    readChallenge reply = some {
      realm := lookupParam (ascii "realm") ps
      nonce := lookupParam (ascii "nonce") ps
      opaqueValue := lookupParam (ascii "opaque") ps
      qop := lookupParam (ascii "qop") ps
      md5Sess := decide (toLower (lookupParam (ascii "algorithm") ps) = ascii "md5-sess") } := by
  have hlength : scheme.length = 6 := by
    have hlower := congrArg List.length hscheme
    unfold toLower at hlower
    rw [List.length_map] at hlower
    exact hlower
  have hne : src ≠ [] := by
    intro hnil
    rw [hparams.eq_nil hnil] at hnonce
    exact hnonce rfl
  have htrim : trimmed (challengeHeader reply) = scheme ++ (gap ++ src) := by
    cases scheme with
    | nil => cases hlength
    | cons c scheme =>
      have hc : isSpace c = false := isSpace_of_toLower (List.cons.inj hscheme).1
      rw [hheader, List.cons_append, trimmed_cons hc, ← List.append_assoc,
        rdropWhile_append_trimmed hne hsrc]
  unfold readChallenge
  simp only [htrim, List.take_left' hlength, List.drop_left' hlength, trimmed_blank_append hgap,
    hsrc, digestParam_of_paramList hparams]
  rw [if_neg, if_neg hnonce]
  rw [not_or, not_not]
  exact ⟨by simp [hlength], hscheme⟩

/-- `digestParam` gives the value of the first parameter with the key, and nothing where there is
    none. -/
theorem digestParam_paramList {ps : List Param} {src : Bytes} (h : ParamList ps src)
    (key : Bytes) : digestParam src key = lookupParam key ps := digestParam_of_paramList h key

/-- A separator in a quoted value, a key that ends in the one looked for, and a letter case. -/
def confusingParams : List Param :=
  [⟨ascii "realm", .quoted (ascii "a, nonce=b")⟩, ⟨ascii "cnonce", .bare (ascii "x")⟩,
    ⟨ascii "NONCE", .quoted (ascii "n=1")⟩]

theorem digestParam_paramList_confusingParams :
    digestParam (ascii "realm=\"a, nonce=b\", cnonce=x, NONCE=\"n=1\"") (ascii "nonce") =
      ascii "n=1" := by
  have hparams : ParamList confusingParams (joinParams confusingParams) :=
    paramList_joinParams (by decide)
  have htext : joinParams confusingParams =
      ascii "realm=\"a, nonce=b\", cnonce=x, NONCE=\"n=1\"" := rfl
  rw [← htext, digestParam_paramList hparams]
  rfl

end ObsZCamera.CameraCtrl
