import QueryTaint.Disk

namespace QueryTaint

namespace Disk

variable {F P : Type} (content? : F → P → Option String) (names : F → P → Prop)

-- The path leads to the file, which holds the text; every other file is as it was before.
structure Written (file : P) (text : String) (before after : F) : Prop where
  names : names after file
  content : content? after file = some text
  others : ∀ other, other ≠ file → content? after other = content? before other

variable {content?} {names}

theorem Written.trans {file : P} {old text : String} {before middle after : F}
    (h : Written content? names file old before middle)
    (hafter : Written content? names file text middle after) :
    Written content? names file text before after :=
  ⟨hafter.names, hafter.content,
    fun other hne => (hafter.others other hne).trans (h.others other hne)⟩

end Disk

namespace Folder

section Content

variable {file other : Place}

end Content

section Paths

variable {folder : Folder} {file place next : Place} {name path : String} (text : String)

end Paths

end Folder

end QueryTaint
