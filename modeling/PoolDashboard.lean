import PoolDashboard.Basic
import PoolDashboard.Rows
import PoolDashboard.Latency
import PoolDashboard.DefaultEndpoint
import PoolDashboard.Reconcile
import PoolDashboard.Page
import PoolDashboard.Refinement
import PoolDashboard.Json
import PoolDashboard.Envelope
import PoolDashboard.LatencyRoute
import PoolDashboard.Locations
import PoolDashboard.LatencyPanel
import PoolDashboard.ConnectPage
import PoolDashboard.Dashboard
import PoolDashboard.MinerLookup
import PoolDashboard.Overview
import PoolDashboard.Double
import PoolDashboard.Hashrate
import PoolDashboard.Figures
import PoolDashboard.CoinPrice
