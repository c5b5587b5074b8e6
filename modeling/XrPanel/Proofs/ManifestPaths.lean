import XrPanel.ActiveRuntime
import XrPanel.Proofs.TrimmedTexts

namespace XrPanel

open Text

def folderChars (folder : String) : List Char := (folder.toList.reverse.dropWhile fun c => c = '\\' || c = '/').reverse

theorem toList_joinPath (folder file : String) :
    (joinPath folder file).toList = folderChars folder ++ '\\' :: file.toList := by
  simp [joinPath, folderChars]

theorem head_folderChars (folder : String) :
    (folderChars folder).head?.any isBlank = folder.toList.head?.any isBlank := by
  let isSeparator (c : Char) : Bool := c = '\\' || c = '/'
  let separators := (folder.toList.reverse.takeWhile isSeparator).reverse
  have hfolder : folder.toList = folderChars folder ++ separators := by
    have h := congrArg List.reverse (List.takeWhile_append_dropWhile (p := isSeparator) (l := folder.toList.reverse))
    rw [List.reverse_append, List.reverse_reverse] at h
    exact h.symm
  rw [hfolder]
  cases hchars : folderChars folder with
  | cons c cs => rfl
  | nil =>
    -- a folder of nothing but separators begins with one of them
    have hnone : separators.head?.any isBlank = false := by
      cases hs : separators with
      | nil => rfl
      | cons c cs =>
        have hmem : c ∈ separators := hs ▸ List.mem_cons_self
        have hc : isSeparator c = true := List.all_eq_true.1 List.all_takeWhile c (List.mem_reverse.1 hmem)
        have hcases : c = '\\' ∨ c = '/' := by simpa [isSeparator] using hc
        rcases hcases with rfl | rfl <;> rfl
    rw [List.nil_append, hnone]
    rfl

theorem toList_trim_joinPath (folder : String) {file : String} (hfile : file.toList.getLast?.any isBlank = false) :
    (trim (joinPath folder file)).toList = trimStart (folderChars folder) ++ '\\' :: file.toList := by
  rw [trim, String.toList_ofList, toList_joinPath, trimStart_append (by decide)]
  rcases List.eq_nil_or_concat file.toList with h | ⟨cs, c, h⟩
  · rw [h]
    exact trimEnd_concat (by decide) _
  · rw [List.concat_eq_append] at h
    rw [h, List.getLast?_concat] at hfile
    have hsplit : ∀ front : List Char, front ++ '\\' :: (cs ++ [c]) = (front ++ '\\' :: cs) ++ [c] := by simp
    rw [h, hsplit]
    exact trimEnd_concat (by simpa using hfile) _

/-- Blanks at the front, which a manifest loses when it is read back. -/
def BeginsBlank (folder : String) : Prop := folder.toList.head?.any isBlank = true

instance (folder : String) : Decidable (BeginsBlank folder) := inferInstanceAs (Decidable (_ = true))

namespace RuntimeChoice

def runtime : RuntimeChoice → ActiveRuntime
  | pimaxXr => .pimaxXr
  | steamVr => .steamVr

def manifestFile : RuntimeChoice → String
  | pimaxXr => "pimax-openxr.json"
  | steamVr => steamVrManifest

def manifest (c : RuntimeChoice) (folder : String) : String := joinPath folder c.manifestFile

def readBack (c : RuntimeChoice) (folder : String) : ActiveRuntime :=
  if BeginsBlank folder then .other (trim (c.manifest folder)) else c.runtime

theorem toList_manifest (c : RuntimeChoice) (folder : String) :
    (c.manifest folder).toList = folderChars folder ++ '\\' :: c.manifestFile.toList := toList_joinPath folder _

theorem toList_trim_manifest (c : RuntimeChoice) (folder : String) :
    (trim (c.manifest folder)).toList = trimStart (folderChars folder) ++ '\\' :: c.manifestFile.toList :=
  toList_trim_joinPath folder (by cases c <;> decide)

theorem trim_manifest_ne (c : RuntimeChoice) (folder : String) : trim (c.manifest folder) ≠ "" := by
  intro h
  have hlist := congrArg String.toList h
  rw [toList_trim_manifest] at hlist
  simp at hlist

theorem trim_manifest_of_not_blank {folder : String} (h : ¬ BeginsBlank folder) (c : RuntimeChoice) :
    trim (c.manifest folder) = c.manifest folder := by
  have hhead : (folderChars folder).head?.any isBlank = false := by
    rw [head_folderChars]
    simpa [BeginsBlank] using h
  rw [← String.toList_inj, toList_trim_manifest, trimStart_of_head hhead, toList_manifest]

theorem not_sameName_trim_manifest {folder : String} (h : BeginsBlank folder) (c : RuntimeChoice) :
    ¬ SameName (trim (c.manifest folder)) (c.manifest folder) := by
  have hhead : (folderChars folder).head?.any isBlank = true := by
    rw [head_folderChars]
    exact h
  have hshorter := length_trimStart_lt hhead
  intro hsame
  have hlength := hsame.length_eq
  rw [toList_trim_manifest, toList_manifest, List.length_append, List.length_append] at hlength
  omega

theorem manifests_differ {c c' : RuntimeChoice} (hc : c ≠ c') (folder folder' : String) :
    ¬ SameName (trim (c.manifest folder)) (c'.manifest folder') := by
  have hend : ∀ (front : List Char) (c : RuntimeChoice),
      (front ++ '\\' :: c.manifestFile.toList).reverse.take 6 = c.manifestFile.toList.reverse.take 6 := by
    intro front c
    have hlong : 6 ≤ c.manifestFile.toList.reverse.length := by cases c <;> decide
    rw [List.reverse_append, List.reverse_cons, List.append_assoc, List.take_append_of_le_length hlong]
  intro h
  have htakes := h.take_reverse 6
  rw [toList_trim_manifest, toList_manifest, hend, hend] at htakes
  revert htakes
  cases c <;> cases c' <;> first | exact absurd rfl hc | decide

end RuntimeChoice

namespace ActiveRuntime

open RuntimeChoice

theorem classify_pimaxManifest (installDir : String) {steam : Option String}
    (hsteam : ∀ m ∈ steam, ∃ folder, m = RuntimeChoice.steamVr.manifest folder) :
    classify (some (RuntimeChoice.pimaxXr.manifest installDir)) (RuntimeChoice.pimaxXr.manifest installDir) steam =
      RuntimeChoice.pimaxXr.readBack installDir := by
  unfold classify readBack
  dsimp only [Option.map_some]
  rw [if_neg (trim_manifest_ne _ _)]
  by_cases hblank : BeginsBlank installDir
  · have hnone :
        ¬ (steam.any fun m => decide (SameName (trim (RuntimeChoice.pimaxXr.manifest installDir)) m)) = true := by
      cases steam with
      | none => simp
      | some m =>
        obtain ⟨folder, rfl⟩ := hsteam m rfl
        rw [Option.any_some, decide_eq_true_iff]
        exact manifests_differ (by decide) installDir folder
    rw [if_neg (not_sameName_trim_manifest hblank _), if_neg hnone, if_pos hblank]
  · rw [trim_manifest_of_not_blank hblank, if_pos (SameName.refl _), if_neg hblank]
    rfl

theorem classify_steamVrManifest (installDir folder : String) :
    classify (some (RuntimeChoice.steamVr.manifest folder)) (RuntimeChoice.pimaxXr.manifest installDir)
      (some (RuntimeChoice.steamVr.manifest folder)) = RuntimeChoice.steamVr.readBack folder := by
  unfold classify readBack
  dsimp only [Option.map_some]
  rw [if_neg (trim_manifest_ne _ _), if_neg (manifests_differ (by decide) folder installDir), Option.any_some]
  by_cases hblank : BeginsBlank folder
  · rw [decide_eq_false (not_sameName_trim_manifest hblank _), if_pos hblank]
    rfl
  · rw [trim_manifest_of_not_blank hblank, decide_eq_true (SameName.refl _), if_neg hblank]
    rfl

end ActiveRuntime

end XrPanel
