import Timetable.Zone.Americas
import Timetable.Zone.Elsewhere
import Timetable.Zone.Europe

/-!
# The zones known by name

A catalogue lists zones under their names; the case of a letter matters.  One
zone may have several names.  For many of the zones nothing is known from before
1970: the modules that list them say for which.
-/

namespace Timetable

set_option autoImplicit false

/-- Zones and their names. -/
abbrev Catalogue := List (String × Zone)

namespace Catalogue

/-- The zone of a name. -/
def zone? (catalogue : Catalogue) (name : String) : Option Zone := catalogue.lookup name

/-- The zones of the world known here. -/
def world : Catalogue :=
  [("Africa/Monrovia", Zone.monrovia),
   ("America/Caracas", Zone.caracas),
   ("America/New_York", Zone.newYork),
   ("America/Sao_Paulo", Zone.saoPaulo),
   ("America/St_Johns", Zone.stJohns),
   ("Antarctica/Troll", Zone.troll),
   ("Asia/Kathmandu", Zone.kathmandu),
   ("Asia/Kolkata", Zone.kolkata),
   ("Asia/Tehran", Zone.tehran),
   ("Asia/Tokyo", Zone.tokyo),
   ("Australia/Lord_Howe", Zone.lordHowe),
   ("Australia/Sydney", Zone.sydney),
   ("EST", Zone.panama),
   ("Etc/GMT+12", Zone.behindByTwelve),
   ("Europe/Berlin", Zone.berlin),
   ("Europe/Dublin", Zone.dublin),
   ("Europe/London", Zone.london),
   ("Europe/Madrid", Zone.madrid),
   ("Europe/Paris", Zone.paris),
   ("Europe/Stockholm", Zone.berlin),
   ("Pacific/Apia", Zone.apia),
   ("Pacific/Kiritimati", Zone.kiritimati),
   ("Pacific/Kwajalein", Zone.kwajalein),
   ("US/Eastern", Zone.newYork),
   ("UTC", Zone.utc)]

end Catalogue

end Timetable
