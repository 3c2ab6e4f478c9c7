import Timetable.Zone.YearlyRule

/-!
# The zones of Europe

Histories of offsets, in seconds east of universal time, with the instants of their
transitions in seconds of universal time since 1970.  Zones whose changes follow a
rule end with the rules and the years they are in force.

All of these histories begin in 1970.  The first offset is the one in force when that
year began, and it stands for every earlier instant as well, at which the clocks of the
place may have shown something else: those of London showed universal time in January
1950.
-/

namespace Timetable.Zone

set_option autoImplicit false

/-- The wall clock of London from 1970 on. -/
def london : Zone :=
  Zone.withRules
    { base := ⟨3600⟩
      transitions :=
        [⟨57722400, ⟨0⟩⟩, ⟨69818400, ⟨3600⟩⟩, ⟨89172000, ⟨0⟩⟩, ⟨101268000, ⟨3600⟩⟩,
         ⟨120621600, ⟨0⟩⟩, ⟨132717600, ⟨3600⟩⟩, ⟨152071200, ⟨0⟩⟩, ⟨164167200, ⟨3600⟩⟩,
         ⟨183520800, ⟨0⟩⟩, ⟨196221600, ⟨3600⟩⟩, ⟨214970400, ⟨0⟩⟩, ⟨227671200, ⟨3600⟩⟩,
         ⟨246420000, ⟨0⟩⟩, ⟨259120800, ⟨3600⟩⟩, ⟨278474400, ⟨0⟩⟩, ⟨290570400, ⟨3600⟩⟩,
         ⟨309924000, ⟨0⟩⟩, ⟨322020000, ⟨3600⟩⟩, ⟨341373600, ⟨0⟩⟩, ⟨354675600, ⟨3600⟩⟩,
         ⟨372819600, ⟨0⟩⟩, ⟨386125200, ⟨3600⟩⟩, ⟨404269200, ⟨0⟩⟩, ⟨417574800, ⟨3600⟩⟩,
         ⟨435718800, ⟨0⟩⟩, ⟨449024400, ⟨3600⟩⟩, ⟨467773200, ⟨0⟩⟩, ⟨481078800, ⟨3600⟩⟩,
         ⟨499222800, ⟨0⟩⟩, ⟨512528400, ⟨3600⟩⟩, ⟨530672400, ⟨0⟩⟩, ⟨543978000, ⟨3600⟩⟩,
         ⟨562122000, ⟨0⟩⟩, ⟨575427600, ⟨3600⟩⟩, ⟨593571600, ⟨0⟩⟩, ⟨606877200, ⟨3600⟩⟩,
         ⟨625626000, ⟨0⟩⟩, ⟨638326800, ⟨3600⟩⟩, ⟨657075600, ⟨0⟩⟩, ⟨670381200, ⟨3600⟩⟩,
         ⟨688525200, ⟨0⟩⟩, ⟨701830800, ⟨3600⟩⟩, ⟨719974800, ⟨0⟩⟩, ⟨733280400, ⟨3600⟩⟩,
         ⟨751424400, ⟨0⟩⟩, ⟨764730000, ⟨3600⟩⟩, ⟨782874000, ⟨0⟩⟩, ⟨796179600, ⟨3600⟩⟩,
         ⟨814323600, ⟨0⟩⟩] }
    1996 2099
    [{ month := 3, sunday := .last, hour := 1, offset := ⟨3600⟩ },
     { month := 10, sunday := .last, hour := 1, offset := ⟨0⟩ }]

/-- The wall clock of Dublin from 1970 on. -/
def dublin : Zone :=
  Zone.withRules
    { base := ⟨3600⟩
      transitions :=
        [⟨57722400, ⟨0⟩⟩, ⟨69818400, ⟨3600⟩⟩, ⟨89172000, ⟨0⟩⟩, ⟨101268000, ⟨3600⟩⟩,
         ⟨120621600, ⟨0⟩⟩, ⟨132717600, ⟨3600⟩⟩, ⟨152071200, ⟨0⟩⟩, ⟨164167200, ⟨3600⟩⟩,
         ⟨183520800, ⟨0⟩⟩, ⟨196221600, ⟨3600⟩⟩, ⟨214970400, ⟨0⟩⟩, ⟨227671200, ⟨3600⟩⟩,
         ⟨246420000, ⟨0⟩⟩, ⟨259120800, ⟨3600⟩⟩, ⟨278474400, ⟨0⟩⟩, ⟨290570400, ⟨3600⟩⟩,
         ⟨309924000, ⟨0⟩⟩, ⟨322020000, ⟨3600⟩⟩, ⟨341373600, ⟨0⟩⟩, ⟨354675600, ⟨3600⟩⟩,
         ⟨372819600, ⟨0⟩⟩, ⟨386125200, ⟨3600⟩⟩, ⟨404269200, ⟨0⟩⟩, ⟨417574800, ⟨3600⟩⟩,
         ⟨435718800, ⟨0⟩⟩, ⟨449024400, ⟨3600⟩⟩, ⟨467773200, ⟨0⟩⟩, ⟨481078800, ⟨3600⟩⟩,
         ⟨499222800, ⟨0⟩⟩, ⟨512528400, ⟨3600⟩⟩, ⟨530672400, ⟨0⟩⟩, ⟨543978000, ⟨3600⟩⟩,
         ⟨562122000, ⟨0⟩⟩, ⟨575427600, ⟨3600⟩⟩, ⟨593571600, ⟨0⟩⟩, ⟨606877200, ⟨3600⟩⟩,
         ⟨625626000, ⟨0⟩⟩, ⟨638326800, ⟨3600⟩⟩, ⟨657075600, ⟨0⟩⟩, ⟨670381200, ⟨3600⟩⟩,
         ⟨688525200, ⟨0⟩⟩, ⟨701830800, ⟨3600⟩⟩, ⟨719974800, ⟨0⟩⟩, ⟨733280400, ⟨3600⟩⟩,
         ⟨751424400, ⟨0⟩⟩, ⟨764730000, ⟨3600⟩⟩, ⟨782874000, ⟨0⟩⟩, ⟨796179600, ⟨3600⟩⟩,
         ⟨814323600, ⟨0⟩⟩] }
    1996 2099
    [{ month := 3, sunday := .last, hour := 1, offset := ⟨3600⟩ },
     { month := 10, sunday := .last, hour := 1, offset := ⟨0⟩ }]

/-- The wall clock of Paris from 1970 on. -/
def paris : Zone :=
  Zone.withRules
    { base := ⟨3600⟩
      transitions :=
        [⟨196819200, ⟨7200⟩⟩, ⟨212540400, ⟨3600⟩⟩, ⟨228877200, ⟨7200⟩⟩, ⟨243997200, ⟨3600⟩⟩,
         ⟨260326800, ⟨7200⟩⟩, ⟨276051600, ⟨3600⟩⟩, ⟨291776400, ⟨7200⟩⟩, ⟨307501200, ⟨3600⟩⟩,
         ⟨323830800, ⟨7200⟩⟩, ⟨338950800, ⟨3600⟩⟩, ⟨354675600, ⟨7200⟩⟩, ⟨370400400, ⟨3600⟩⟩,
         ⟨386125200, ⟨7200⟩⟩, ⟨401850000, ⟨3600⟩⟩, ⟨417574800, ⟨7200⟩⟩, ⟨433299600, ⟨3600⟩⟩,
         ⟨449024400, ⟨7200⟩⟩, ⟨465354000, ⟨3600⟩⟩, ⟨481078800, ⟨7200⟩⟩, ⟨496803600, ⟨3600⟩⟩,
         ⟨512528400, ⟨7200⟩⟩, ⟨528253200, ⟨3600⟩⟩, ⟨543978000, ⟨7200⟩⟩, ⟨559702800, ⟨3600⟩⟩,
         ⟨575427600, ⟨7200⟩⟩, ⟨591152400, ⟨3600⟩⟩, ⟨606877200, ⟨7200⟩⟩, ⟨622602000, ⟨3600⟩⟩,
         ⟨638326800, ⟨7200⟩⟩, ⟨654656400, ⟨3600⟩⟩, ⟨670381200, ⟨7200⟩⟩, ⟨686106000, ⟨3600⟩⟩,
         ⟨701830800, ⟨7200⟩⟩, ⟨717555600, ⟨3600⟩⟩, ⟨733280400, ⟨7200⟩⟩, ⟨749005200, ⟨3600⟩⟩,
         ⟨764730000, ⟨7200⟩⟩, ⟨780454800, ⟨3600⟩⟩, ⟨796179600, ⟨7200⟩⟩, ⟨811904400, ⟨3600⟩⟩] }
    1996 2099
    [{ month := 3, sunday := .last, hour := 1, offset := ⟨7200⟩ },
     { month := 10, sunday := .last, hour := 1, offset := ⟨3600⟩ }]

/-- The wall clock of Madrid from 1970 on. -/
def madrid : Zone :=
  Zone.withRules
    { base := ⟨3600⟩
      transitions :=
        [⟨135122400, ⟨7200⟩⟩, ⟨150246000, ⟨3600⟩⟩, ⟨166572000, ⟨7200⟩⟩, ⟨181695600, ⟨3600⟩⟩,
         ⟨196812000, ⟨7200⟩⟩, ⟨212540400, ⟨3600⟩⟩, ⟨228866400, ⟨7200⟩⟩, ⟨243990000, ⟨3600⟩⟩,
         ⟨260326800, ⟨7200⟩⟩, ⟨276051600, ⟨3600⟩⟩, ⟨291776400, ⟨7200⟩⟩, ⟨307501200, ⟨3600⟩⟩,
         ⟨323830800, ⟨7200⟩⟩, ⟨338950800, ⟨3600⟩⟩, ⟨354675600, ⟨7200⟩⟩, ⟨370400400, ⟨3600⟩⟩,
         ⟨386125200, ⟨7200⟩⟩, ⟨401850000, ⟨3600⟩⟩, ⟨417574800, ⟨7200⟩⟩, ⟨433299600, ⟨3600⟩⟩,
         ⟨449024400, ⟨7200⟩⟩, ⟨465354000, ⟨3600⟩⟩, ⟨481078800, ⟨7200⟩⟩, ⟨496803600, ⟨3600⟩⟩,
         ⟨512528400, ⟨7200⟩⟩, ⟨528253200, ⟨3600⟩⟩, ⟨543978000, ⟨7200⟩⟩, ⟨559702800, ⟨3600⟩⟩,
         ⟨575427600, ⟨7200⟩⟩, ⟨591152400, ⟨3600⟩⟩, ⟨606877200, ⟨7200⟩⟩, ⟨622602000, ⟨3600⟩⟩,
         ⟨638326800, ⟨7200⟩⟩, ⟨654656400, ⟨3600⟩⟩, ⟨670381200, ⟨7200⟩⟩, ⟨686106000, ⟨3600⟩⟩,
         ⟨701830800, ⟨7200⟩⟩, ⟨717555600, ⟨3600⟩⟩, ⟨733280400, ⟨7200⟩⟩, ⟨749005200, ⟨3600⟩⟩,
         ⟨764730000, ⟨7200⟩⟩, ⟨780454800, ⟨3600⟩⟩, ⟨796179600, ⟨7200⟩⟩, ⟨811904400, ⟨3600⟩⟩] }
    1996 2099
    [{ month := 3, sunday := .last, hour := 1, offset := ⟨7200⟩ },
     { month := 10, sunday := .last, hour := 1, offset := ⟨3600⟩ }]

/-- The wall clock of Berlin from 1970 on. -/
def berlin : Zone :=
  Zone.withRules
    { base := ⟨3600⟩
      transitions :=
        [⟨323830800, ⟨7200⟩⟩, ⟨338950800, ⟨3600⟩⟩, ⟨354675600, ⟨7200⟩⟩, ⟨370400400, ⟨3600⟩⟩,
         ⟨386125200, ⟨7200⟩⟩, ⟨401850000, ⟨3600⟩⟩, ⟨417574800, ⟨7200⟩⟩, ⟨433299600, ⟨3600⟩⟩,
         ⟨449024400, ⟨7200⟩⟩, ⟨465354000, ⟨3600⟩⟩, ⟨481078800, ⟨7200⟩⟩, ⟨496803600, ⟨3600⟩⟩,
         ⟨512528400, ⟨7200⟩⟩, ⟨528253200, ⟨3600⟩⟩, ⟨543978000, ⟨7200⟩⟩, ⟨559702800, ⟨3600⟩⟩,
         ⟨575427600, ⟨7200⟩⟩, ⟨591152400, ⟨3600⟩⟩, ⟨606877200, ⟨7200⟩⟩, ⟨622602000, ⟨3600⟩⟩,
         ⟨638326800, ⟨7200⟩⟩, ⟨654656400, ⟨3600⟩⟩, ⟨670381200, ⟨7200⟩⟩, ⟨686106000, ⟨3600⟩⟩,
         ⟨701830800, ⟨7200⟩⟩, ⟨717555600, ⟨3600⟩⟩, ⟨733280400, ⟨7200⟩⟩, ⟨749005200, ⟨3600⟩⟩,
         ⟨764730000, ⟨7200⟩⟩, ⟨780454800, ⟨3600⟩⟩, ⟨796179600, ⟨7200⟩⟩, ⟨811904400, ⟨3600⟩⟩] }
    1996 2099
    [{ month := 3, sunday := .last, hour := 1, offset := ⟨7200⟩ },
     { month := 10, sunday := .last, hour := 1, offset := ⟨3600⟩ }]

end Timetable.Zone
