/-!
# Keywords

The reserved words of Kind++.  All are words but one: the farewell `adios:(` ends in a colon and a
parenthesis.
-/

namespace KindLex

/-- The reserved words. -/
inductive Keyword where
  | principalsito | porfavor | favor | podriasCrear | metodillo | podriasImprimir | podriasLeer
  | adiosTriste | aclama
  | siCumple | peroSiCumple | casoContrario | siPersiste | saltear | parar | enCasoSea | oSino
  | retorna | clona
  | enterito | realito | booleanito | charsito | cadenita
  | nulito | vacio | constantito | clasesita
  deriving DecidableEq

namespace Keyword

/-- Every keyword, in the order of the codes. -/
def all : List Keyword :=
  [.principalsito, .porfavor, .favor, .podriasCrear, .metodillo, .podriasImprimir, .podriasLeer,
   .adiosTriste, .aclama,
   .siCumple, .peroSiCumple, .casoContrario, .siPersiste, .saltear, .parar, .enCasoSea, .oSino,
   .retorna, .clona,
   .enterito, .realito, .booleanito, .charsito, .cadenita,
   .nulito, .vacio, .constantito, .clasesita]

/-- The list of all keywords leaves none out. -/
theorem mem_all (k : Keyword) : k ∈ all := by
  cases k <;> decide

/-- How a keyword is written in a program. -/
def spelling : Keyword → String
  | .principalsito   => "principalsito"
  | .porfavor        => "porfavor"
  | .favor           => "favor"
  | .podriasCrear    => "podriasCrear"
  | .metodillo       => "metodillo"
  | .podriasImprimir => "podriasImprimir"
  | .podriasLeer     => "podriasLeer"
  | .adiosTriste     => "adios:("
  | .aclama          => "aclama"
  | .siCumple        => "siCumple"
  | .peroSiCumple    => "peroSiCumple"
  | .casoContrario   => "casoContrario"
  | .siPersiste      => "siPersiste"
  | .saltear         => "saltear"
  | .parar           => "parar"
  | .enCasoSea       => "enCasoSea"
  | .oSino           => "oSino"
  | .retorna         => "retorna"
  | .clona           => "clona"
  | .enterito        => "enterito"
  | .realito         => "realito"
  | .booleanito      => "booleanito"
  | .charsito        => "charsito"
  | .cadenita        => "cadenita"
  | .nulito          => "nulito"
  | .vacio           => "vacio"
  | .constantito     => "constantito"
  | .clasesita       => "clasesita"

/-- The name under which tables show a keyword. -/
def name : Keyword → String
  | .principalsito   => "Principalsito"
  | .porfavor        => "Porfavor"
  | .favor           => "Favor"
  | .podriasCrear    => "PodriasCrear"
  | .metodillo       => "Metodillo"
  | .podriasImprimir => "PodriasImprimir"
  | .podriasLeer     => "PodriasLeer"
  | .adiosTriste     => "AdiosTriste"
  | .aclama          => "Aclama"
  | .siCumple        => "SiCumple"
  | .peroSiCumple    => "PeroSiCumple"
  | .casoContrario   => "CasoContrario"
  | .siPersiste      => "SiPersiste"
  | .saltear         => "Saltear"
  | .parar           => "Parar"
  | .enCasoSea       => "EnCasoSea"
  | .oSino           => "OSino"
  | .retorna         => "Retorna"
  | .clona           => "Clona"
  | .enterito        => "Enterito"
  | .realito         => "Realito"
  | .booleanito      => "Booleanito"
  | .charsito        => "Charsito"
  | .cadenita        => "Cadenita"
  | .nulito          => "Nulito"
  | .vacio           => "Vacio"
  | .constantito     => "Constantito"
  | .clasesita       => "Clasesita"

/-- The number of a keyword: keywords are numbered from 10 to 37. -/
def code : Keyword → Nat
  | .principalsito   => 10
  | .porfavor        => 11
  | .favor           => 12
  | .podriasCrear    => 13
  | .metodillo       => 14
  | .podriasImprimir => 15
  | .podriasLeer     => 16
  | .adiosTriste     => 17
  | .aclama          => 18
  | .siCumple        => 19
  | .peroSiCumple    => 20
  | .casoContrario   => 21
  | .siPersiste      => 22
  | .saltear         => 23
  | .parar           => 24
  | .enCasoSea       => 25
  | .oSino           => 26
  | .retorna         => 27
  | .clona           => 28
  | .enterito        => 29
  | .realito         => 30
  | .booleanito      => 31
  | .charsito        => 32
  | .cadenita        => 33
  | .nulito          => 34
  | .vacio           => 35
  | .constantito     => 36
  | .clasesita       => 37

/-- The keywords that are words; the farewell is the one that is not. -/
def words : List Keyword :=
  all.filter (· ≠ .adiosTriste)

end Keyword

end KindLex
