/-!
The built-in template. It declares, for an aggregate, the common trait of its events, traits for their
subscribers, and store operations with the types of the aggregate.
-/

namespace Scaffold.Template.Builtin

/-- The built-in template line by line. The feature is written `‹›`, and braces are written `⟨` and `⟩`. -/
def sketch : List String := [
    "// @generated by aggregate-codegen from `‹›Aggregate`. Do not edit.",
    "",
    "/// Scaffolding for the `‹›Aggregate` aggregate root.",
    "#[allow(non_snake_case, dead_code)]",
    "pub mod ‹› ⟨",
    "    /// Domain events of the `‹›Aggregate`.",
    "    pub mod events ⟨",
    "        use super::super::‹›Aggregate;",
    "        use super::super::‹›AggregateId;",
    "",
    "        /// Common ancestor of every domain event raised by [`‹›Aggregate`].",
    "        pub trait ‹›Event:",
    "            ::eventflow::aggregates::AggregateEvent<‹›Aggregate, ‹›AggregateId>",
    "        ⟨",
    "        ⟩",
    "    ⟩",
    "",
    "    /// Subscriber capabilities scoped to the `‹›Aggregate`.",
    "    pub mod subscribers ⟨",
    "        use super::super::‹›Aggregate;",
    "        use super::super::‹›AggregateId;",
    "        use super::events::‹›Event;",
    "",
    "        /// Synchronous subscriber of a [`‹›Aggregate`] event.",
    "        pub trait SubscribeSynchronousTo<TEvent>:",
    "            ::eventflow::subscribers::SubscribeSynchronousTo<",
    "                ‹›Aggregate,",
    "                ‹›AggregateId,",
    "                TEvent,",
    "            >",
    "        where",
    "            TEvent: ‹›Event,",
    "        ⟨",
    "        ⟩",
    "",
    "        impl<T, TEvent> SubscribeSynchronousTo<TEvent> for T",
    "        where",
    "            T: ::eventflow::subscribers::SubscribeSynchronousTo<",
    "                    ‹›Aggregate,",
    "                    ‹›AggregateId,",
    "                    TEvent,",
    "                >,",
    "            TEvent: ‹›Event,",
    "        ⟨",
    "        ⟩",
    "",
    "        /// Asynchronous subscriber of a [`‹›Aggregate`] event.",
    "        pub trait SubscribeAsynchronousTo<TEvent>:",
    "            ::eventflow::subscribers::SubscribeAsynchronousTo<",
    "                ‹›Aggregate,",
    "                ‹›AggregateId,",
    "                TEvent,",
    "            >",
    "        where",
    "            TEvent: ‹›Event,",
    "        ⟨",
    "        ⟩",
    "",
    "        impl<T, TEvent> SubscribeAsynchronousTo<TEvent> for T",
    "        where",
    "            T: ::eventflow::subscribers::SubscribeAsynchronousTo<",
    "                    ‹›Aggregate,",
    "                    ‹›AggregateId,",
    "                    TEvent,",
    "                >,",
    "            TEvent: ‹›Event,",
    "        ⟨",
    "        ⟩",
    "    ⟩",
    "",
    "    /// Aggregate store operations specialized to the `‹›Aggregate`.",
    "    pub mod aggregate_store ⟨",
    "        use super::super::‹›Aggregate;",
    "        use super::super::‹›AggregateId;",
    "        use ::eventflow::aggregates::AggregateStore;",
    "        use ::eventflow::aggregates::AggregateUpdateResult;",
    "        use ::eventflow::aggregates::execution_results::ExecutionResult;",
    "        use ::eventflow::core::CancellationToken;",
    "        use ::eventflow::core::SourceId;",
    "        use ::eventflow::DomainEvent;",
    "        use std::future::Future;",
    "",
    "        /// Extension methods on any [`AggregateStore`] for the [`‹›Aggregate`].",
    "        pub trait AggregateStoreExt: AggregateStore ⟨",
    "            /// Updates the [`‹›Aggregate`] with the given id.",
    "            ///",
    "            /// `update` may borrow the aggregate across awaits:",
    "            /// `store.update(id, async |order| order.confirm().await, token)`.",
    "            ///",
    "            /// Resolves to the domain events that happened during the update.",
    "            fn update<F>(",
    "                &self,",
    "                id: ‹›AggregateId,",
    "                update: F,",
    "                cancellation: CancellationToken,",
    "            ) -> impl Future<Output = Result<Vec<Box<dyn DomainEvent>>, Self::Error>>",
    "            where",
    "                F: AsyncFnOnce(&mut ‹›Aggregate) + Send,",
    "            ⟨",
    "                AggregateStore::update_aggregate::<‹›Aggregate, ‹›AggregateId, _>(",
    "                    self,",
    "                    id,",
    "                    SourceId::new(),",
    "                    async move |aggregate, _cancellation| update(aggregate).await,",
    "                    cancellation,",
    "                )",
    "            ⟩",
    "",
    "            /// Updates the [`‹›Aggregate`] with the given id.",
    "            ///",
    "            /// Resolves to an [`AggregateUpdateResult`] carrying the execution result.",
    "            fn update_with_result<TExecutionResult, F>(",
    "                &self,",
    "                id: ‹›AggregateId,",
    "                update: F,",
    "                cancellation: CancellationToken,",
    "            ) -> impl Future<Output = Result<AggregateUpdateResult<TExecutionResult>, Self::Error>>",
    "            where",
    "                TExecutionResult: ExecutionResult,",
    "                F: AsyncFnOnce(&mut ‹›Aggregate) -> TExecutionResult + Send,",
    "            ⟨",
    "                AggregateStore::update_aggregate_with_result::<",
    "                    ‹›Aggregate,",
    "                    ‹›AggregateId,",
    "                    TExecutionResult,",
    "                    _,",
    "                >(",
    "                    self,",
    "                    id,",
    "                    SourceId::new(),",
    "                    async move |aggregate, _cancellation| update(aggregate).await,",
    "                    cancellation,",
    "                )",
    "            ⟩",
    "",
    "            /// Loads the [`‹›Aggregate`] with the given id.",
    "            fn load(",
    "                &self,",
    "                id: ‹›AggregateId,",
    "                cancellation: CancellationToken,",
    "            ) -> impl Future<Output = Result<‹›Aggregate, Self::Error>> + Send ⟨",
    "                AggregateStore::load_aggregate::<‹›Aggregate, ‹›AggregateId>(",
    "                    self,",
    "                    id,",
    "                    cancellation,",
    "                )",
    "            ⟩",
    "",
    "            /// Stores the given [`‹›Aggregate`].",
    "            ///",
    "            /// Resolves to the domain events that happened since it was loaded.",
    "            fn store(",
    "                &self,",
    "                aggregate: ‹›Aggregate,",
    "                cancellation: CancellationToken,",
    "            ) -> impl Future<Output = Result<Vec<Box<dyn DomainEvent>>, Self::Error>> + Send ⟨",
    "                AggregateStore::store_aggregate::<‹›Aggregate, ‹›AggregateId>(",
    "                    self,",
    "                    aggregate,",
    "                    SourceId::new(),",
    "                    cancellation,",
    "                )",
    "            ⟩",
    "        ⟩",
    "",
    "        impl<S> AggregateStoreExt for S where S: AggregateStore + ?Sized ⟨⟩",
    "    ⟩",
    "⟩",
    ""]

/-- What a character of the sketch stands for. -/
def unfold (c : Char) : List Char :=
  match c with
  | '‹' => ['\x7b', '\x7b', ' ']
  | '›' => "feature ".toList ++ ['\x7d', '\x7d']
  | '⟨' => ['\x7b']
  | '⟩' => ['\x7d']
  | c => [c]

/-- The text of the built-in template. -/
def source : String :=
  String.ofList (("\n".intercalate sketch).toList.flatMap unfold)

end Scaffold.Template.Builtin
