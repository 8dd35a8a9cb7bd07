import FieldTemplates.Options.Basic

namespace FieldTemplates.Snippet

structure Style where
  unit : List Char
  textDomain : List Char
  imageSize : List Char
  gallerySize : List Char
deriving DecidableEq, Repr

def Style.ofOptions (o : Options) : Except Options.IndentError Style :=
  o.indentUnit.map fun unit =>
    ⟨unit, o.textDomain.display.toList, o.imageSize.display.toList,
      o.galleryImageSize.display.toList⟩

end FieldTemplates.Snippet
