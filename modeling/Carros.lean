import Carros.Base.PendingStore
import Carros.Catalogue.Crud
import Carros.Catalogue.FormOutcome
import Carros.Catalogue.NewCar
import Carros.Catalogue.Photos
import Carros.Catalogue.Search
import Carros.Catalogue.TabView
import Carros.Catalogue.Tabs
import Carros.Catalogue.Untouched
import Carros.Entity.Decoders
import Carros.Favoritos.FavoritosModel
import Carros.Favoritos.Icon
import Carros.Favoritos.LocalJoin
import Carros.Favoritos.Overlap
import Carros.Favoritos.Reload
import Carros.Favoritos.Toggles
import Carros.Http.Outcomes
import Carros.Http.Tokens
import Carros.Http.Upload
import Carros.Local.Cache
import Carros.Local.Connectivity
import Carros.Local.Handle
import Carros.Local.LateResponse
import Carros.Local.Refinement
import Carros.Local.Refresh
import Carros.Local.Schema
import Carros.Navigation.Authenticated
import Carros.Navigation.CarPages
import Carros.Navigation.Disposal
import Carros.Navigation.Logout
import Carros.Navigation.Progress
import Carros.Navigation.Registration
import Carros.Navigation.TabMemory
import Carros.Running.LastTap
import Carros.Running.Outcome
import Carros.Running.Rest
import Carros.Session.AtomicLogin
import Carros.Session.Codec
